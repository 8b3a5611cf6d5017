import StateExplorer.Shell.Floating
import StateExplorer.Shell.Tool.Basic

/-!
# Programs that pass texts on

These programs print what they read as it is, or with its lines numbered or turned around. What cannot
be read is told of, and the rest is still printed.
-/

namespace StateExplorer.Shell.Tool

open Run

/-! ## Putting files together -/

/-- How lines are shown: which of them are numbered, and what is made visible. -/
structure Showing where
  numbersAll : Bool
  numbersFull : Bool
  showsEnds : Bool
  showsTabs : Bool
  showsOthers : Bool
  squeezes : Bool

/-- A character that is made visible: control characters with a caret, others with a mark before
them. -/
def visible (s : Showing) (c : Char) : List Char :=
  let plain (n : Nat) : List Char :=
    if n < 32 then ['^', Char.ofNat (n + 64)]
    else if n == 127 then ['^', '?']
    else [Char.ofNat n]
  if c == '\t' then (if s.showsTabs then ['^', 'I'] else [c])
  else if !s.showsOthers || c == '\n' then [c]
  else if c.toNat < 128 then plain c.toNat
  else 'M' :: '-' :: plain (c.toNat - 128)

/-- What is kept between lines: how many were numbered, and how many empty ones came last. -/
structure ShowingState where
  number : Nat
  empty : Nat
  output : List String

/-- Shows one line, with its end if it has one. -/
def showLine (s : Showing) (state : ShowingState) (line : String) : ShowingState :=
  let isEmpty := line == "\n"
  let empty := if isEmpty then state.empty + 1 else 0
  if s.squeezes && 1 < empty then { state with empty := empty }
  else
    let numbered := if s.numbersFull then !isEmpty else s.numbersAll
    let number := if numbered then state.number + 1 else state.number
    let front := if numbered then Bytes.padLeft 6 (toString number) ++ "\t" else ""
    let chars := line.toList
    let isEnded := chars.getLast? == some '\n'
    let body := if isEnded then chars.dropLast else chars
    let shown :=
      if s.showsTabs || s.showsOthers then String.ofList (body.flatMap (visible s))
      else String.ofList body
    let shown :=
      if s.showsEnds && isEnded && !s.showsOthers && body.getLast? == some '\r' then
        String.ofList (shown.toList.dropLast ++ ['^', 'M'])
      else shown
    let ending := if isEnded then (if s.showsEnds then "$\n" else "\n") else ""
    ⟨number, empty, (front ++ shown ++ ending) :: state.output⟩

/-- Puts files together. -/
def cat : Tool := fun _ name arguments =>
  withOptions name 1 (options (flags [('A', "show-all"), ('b', "number-nonblank"), ('e', ""),
      ('E', "show-ends"), ('n', "number"), ('s', "squeeze-blank"), ('t', ""), ('T', "show-tabs"),
      ('u', ""), ('v', "show-nonprinting")]) arguments) fun given paths => do
    let is (letters : List Char) : Bool := letters.any (has given)
    let showing : Showing :=
      ⟨is ['n'], is ['b'], is ['A', 'e', 'E'], is ['A', 't', 'T'], is ['A', 'e', 't', 'v'],
        is ['s']⟩
    let isPlain := !is ['A', 'b', 'e', 'E', 'n', 's', 't', 'T', 'v']
    let mut status := 0
    let mut texts : List String := []
    for path in if paths.isEmpty then ["-"] else paths do
      match ← sourceText path with
      | .ok text =>
        if isPlain then print text else texts := text :: texts
      | .error why =>
        tellPlainly name path why
        status := 1
    if !isPlain then
      let text := String.join texts.reverse
      let state := (Bytes.endedLines text).foldl (showLine showing) ⟨0, 0, []⟩
      print (String.join state.output.reverse)
    return status

/-- Puts files together with their lines in the reverse order. -/
def tac : Tool := fun _ name arguments =>
  withOptions name 1 (options (flags [('b', "before"), ('r', "regex")] ++
      valued [('s', "separator")]) arguments) fun given paths => do
    let tell (path : String) (why : Unreadable) : Run Unit :=
      match why with
      | .isDirectory => complain name (shownPath path ++ ": read error: Invalid argument")
      | why =>
        complain name ("failed to open " ++ quotedPath path ++ " for reading: " ++ why.message)
    let (texts, failed) ← sources paths tell
    let mark := (value? given 's').getD "\n"
    for (_, text) in texts do
      let parts := text.splitOn mark
      let last := (parts.getLast?).getD ""
      let ended := parts.dropLast.map (· ++ mark)
      let pieces := if last.isEmpty then ended else ended ++ [last]
      print (String.join pieces.reverse)
    return if failed then 1 else 0

/-- Turns each line around. -/
def rev : Tool := fun _ name arguments =>
  withOptions name 1 (options (flags [('0', "zero")]) arguments) fun _ paths => do
    let tell (path : String) (why : Unreadable) : Run Unit :=
      complain name ("cannot open " ++ path ++ ": " ++ why.message)
    let (texts, failed) ← sources paths tell
    for (_, text) in texts do
      let turned (line : String) : String :=
        match line.toList.reverse with
        | '\n' :: rest => String.ofList rest ++ "\n"
        | rest => String.ofList rest
      print (String.join ((Bytes.endedLines text).map turned))
    return if failed then 1 else 0

/-- Passes its input on and keeps it in files. -/
def tee : Tool := fun _ name arguments =>
  withOptions name 1 (options (flags [('a', "append"), ('i', "ignore-interrupts"), ('p', "")])
      arguments) fun given paths => do
    let text := match ← input with
      | .ok text => text
      | .error _ => ""
    print text
    let mut status := 0
    for path in paths do
      match streamOf? (← fullPath path) with
      | some stream =>
        let _ ← write stream text
      | none =>
        let old ← if has given 'a' then pure ((← fileText? path).getD "") else pure ""
        if !(← writeFile path (old ++ text)) then
          complain name (shownPath path ++ ": " ++ (← whyUnwritten path))
          status := 1
    return status

/-! ## Numbering lines -/

/-- Which lines get a number. -/
def numbersLine (style : String) (line : String) : Bool :=
  match style.toList with
  | ['a'] => true
  | ['n'] => false
  | _ => !line.isEmpty

/-- Numbers lines. -/
def nl : Tool := fun _ name arguments =>
  withOptions name 1 (options (valued [('b', "body-numbering"), ('d', "section-delimiter"),
      ('f', "footer-numbering"), ('h', "header-numbering"), ('i', "line-increment"),
      ('l', "join-blank-lines"), ('n', "number-format"), ('s', "number-separator"),
      ('v', "starting-line-number"), ('w', "number-width")] ++ flags [('p', "no-renumber")])
      arguments) fun given paths => do
    let (texts, failed) ← sources paths (tellPlainly name)
    let style := (value? given 'b').getD "t"
    let mark := (value? given 's').getD "\t"
    let width := ((value? given 'w').bind Bytes.nat?).getD 6
    let step := ((value? given 'i').bind Bytes.int?).getD 1
    let start := ((value? given 'v').bind Bytes.int?).getD 1
    let shown (n : Int) : String :=
      match value? given 'n' with
      | some "ln" => Bytes.padRight width (toString n)
      | some "rz" => String.ofList (Floating.digits width n.natAbs)
      | _ => Bytes.padLeft width (toString n)
    let blank := "".pushn ' ' (width + mark.length)
    let one (state : Int × List String) (line : String) : Int × List String :=
      if numbersLine style line then
        (state.1 + step, (shown state.1 ++ mark ++ line ++ "\n") :: state.2)
      else (state.1, (blank ++ line ++ "\n") :: state.2)
    let all := texts.flatMap fun (_, text) => Bytes.lines text
    print (String.join (all.foldl one (start, [])).2.reverse)
    return if failed then 1 else 0

end StateExplorer.Shell.Tool
