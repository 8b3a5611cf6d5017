import StateExplorer.Shell.Tool.Columns
import StateExplorer.Shell.Tool.Comparing
import StateExplorer.Shell.Tool.Copying
import StateExplorer.Shell.Tool.Count
import StateExplorer.Shell.Tool.Dump
import StateExplorer.Shell.Tool.Expression
import StateExplorer.Shell.Tool.Grep
import StateExplorer.Shell.Tool.Order
import StateExplorer.Shell.Tool.Sed
import StateExplorer.Shell.Tool.Starting
import StateExplorer.Shell.Tool.Translate
import StateExplorer.Shell.Tool.Whole

/-!
# The programs of the machine

A name of a program leads to what it does. Shells are programs too, but what they do is told
elsewhere.
-/

namespace StateExplorer.Shell

open Run

/-- The programs with their names. -/
def tools : List (String × Tool) :=
  [("true", fun _ _ _ => return 0), ("false", fun _ _ _ => return 1),
   ("cat", Tool.cat), ("tac", Tool.tac), ("rev", Tool.rev), ("tee", Tool.tee), ("nl", Tool.nl),
   ("head", Tool.head), ("tail", Tool.tail), ("wc", Tool.wc), ("seq", Tool.seq),
   ("cut", Tool.cut), ("paste", Tool.paste), ("fold", Tool.fold), ("expand", Tool.expand),
   ("sort", Tool.sort), ("uniq", Tool.uniq), ("comm", Tool.comm), ("tr", Tool.tr),
   ("grep", Tool.grep 'G'), ("egrep", Tool.grep 'E'), ("fgrep", Tool.grep 'F'),
   ("sed", Tool.sed), ("expr", Tool.expr), ("cmp", Tool.cmp), ("diff", Tool.diff),
   ("od", Tool.od), ("base64", Tool.base64), ("sha256sum", Tool.sha256sum),
   ("basename", Tool.basename), ("dirname", Tool.dirname), ("realpath", Tool.realpath),
   ("readlink", Tool.readlink), ("pwd", Tool.pwd),
   ("rm", Tool.rm), ("rmdir", Tool.rmdir), ("mkdir", Tool.mkdir), ("touch", Tool.touch),
   ("mktemp", Tool.mktemp), ("chmod", Tool.chmod), ("cp", Tool.cp), ("mv", Tool.mv),
   ("ln", Tool.ln), ("ls", Tool.ls),
   ("env", Tool.env), ("printenv", Tool.printenv), ("sleep", Tool.sleep),
   ("timeout", Tool.timeout), ("nohup", Tool.nohup), ("nice", Tool.nice), ("echo", Tool.echo),
   ("printf", Tool.printf), ("xargs", Tool.xargs), ("yes", Tool.yes), ("whoami", Tool.whoami),
   ("id", Tool.id), ("uname", Tool.uname), ("stat", Tool.stat), ("which", Tool.which),
   ("truncate", Tool.truncate), ("unlink", Tool.unlink), ("dd", Tool.dd),
   ("test", Tool.test false), ("[", Tool.test true), ("sync", fun _ _ _ => return 0)]

/-- The names of the programs. -/
def toolNames : List String := ["sh", "dash", "bash"] ++ tools.map Prod.fst

/-- The program of a name. -/
def tool? (name : String) : Option Tool := tools.lookup name

end StateExplorer.Shell
