import StateExplorer.Proofs.Statechart.Validity
import StateExplorer.Proofs.Text.Names
import StateExplorer.Statechart.Drawing

/-!
# Drawings read back

A drawing is read statement by statement: a statement opens or closes a block, declares a node,
draws an edge, or sets something. Putting the statements together from the last one to the first
gives an outline again, as a block that is opened encloses what was put together since its end. For
names of words and slashes, each of which the reader takes whole, that outline is the one of the
chart, with the names as they are written in drawings.
-/

namespace StateExplorer.Statechart

variable {chart : Statechart} {state : String} {active : List String} {deepest : Nat}

/-- Whether a name has letters, numerals, underscores and slashes only, as words that are joined by
slashes have. -/
def IsPath (name : String) : Prop :=
  ∀ c ∈ name.toList, Text.isWordChar c = true ∨ c = '/'

instance : DecidablePred IsPath := fun name =>
  decidable_of_iff (name.toList.all fun c => Text.isWordChar c || c == '/') (by simp [IsPath])

/-! ### Statements -/

/-- What a statement of a drawing does. -/
inductive Statement
  | opens (cluster : String)
  | closes
  | node (name : String) (labelled : Bool)
  | edge (source head : String)
  | setting
deriving DecidableEq

namespace Statement

/-- What a statement does that begins with a word and a blank. -/
def behindBlank (word : String) (rest : List Char) : Statement :=
  match Text.dropStart? "[".toList rest with
  | some attributes => .node word (Text.dropStart? "label=".toList attributes).isSome
  | none =>
    match Text.dropStart? "cluster_".toList rest with
    | some name =>
      if word = "subgraph" ∧ name.dropWhile Text.isWordChar = [' ', '\x7b'] then
        .opens (String.ofList (name.takeWhile Text.isWordChar))
      else .setting
    | none => .setting

/-- What a statement does that begins with a word, as what stands behind the word says. -/
def behind (word : String) : List Char → Statement
  | ' ' :: rest => behindBlank word rest
  | '-' :: '>' :: target => .edge word (String.ofList (target.takeWhile Text.isWordChar))
  | ['\x7d'] => if word = "" then .closes else .setting
  | _ => .setting

/-- Reads a statement. -/
def read (statement : String) : Statement :=
  behind (String.ofList (statement.toList.takeWhile Text.isWordChar))
    (statement.toList.dropWhile Text.isWordChar)

/-- Whether a statement shows a state: it opens a block, or it declares a node with a label. -/
def shows : Statement → Bool
  | opens _ => true
  | node _ labelled => labelled
  | _ => false

/-- Whether a statement neither shows a state nor closes a block. -/
def IsAside (s : Statement) : Prop :=
  s.shows = false ∧ s ≠ .closes

/-- Puts a statement in front of what follows it, which is the outline up to the end of the innermost
block, then that up to the end of the block around it, and so on. -/
def putBefore : Statement → List Outline → Option (List Outline)
  | opens cluster, inner :: rest :: outer => some (.entry cluster inner rest :: outer)
  | opens _, _ => none
  | closes, outer => some (.nil :: outer)
  | node name true, rest :: outer => some (.entry name .nil rest :: outer)
  | node _ true, [] => none
  | _, outer => some outer

end Statement

/-- Reads a drawing: the outline of the blocks and labelled nodes between its first statement, which
opens it, and the last one, which closes it. -/
def readOutline? : List String → Option Outline
  | [] => none
  | first :: statements =>
    if first = "digraph G \x7b" then
      match (statements.map Statement.read).foldrM Statement.putBefore [.nil] with
      | some [o, .nil] => some o
      | _ => none
    else none

/-- The same outline with other names. -/
def Outline.map (f : String → String) : Outline → Outline
  | nil => nil
  | entry state below rest => entry (f state) (below.map f) (rest.map f)

/-! ### Statements of a drawing -/

/-- The characters of a path are those of a word when it is written in a drawing. -/
theorem isWordChar_of_mem_canonical (h : IsPath state) {c : Char} (hc : c ∈ (canonical state).toList) :
    Text.isWordChar c = true := by
  rw [canonical, String.toList_ofList, List.mem_map] at hc
  obtain ⟨d, hd, rfl⟩ := hc
  split
  · exact Bool.or_eq_true_iff.2 (.inr rfl)
  · exact (h d hd).resolve_right ‹_›

/-- The name of the point for entering a cluster is that of a word. -/
theorem isWordChar_of_mem_entryName (h : IsPath state) {c : Char}
    (hc : c ∈ (entryName (canonical state)).toList) : Text.isWordChar c = true := by
  rw [entryName, String.toList_append, List.mem_append] at hc
  rcases hc with hc | hc
  · exact isWordChar_of_mem_canonical h hc
  · exact List.all_eq_true.1 (by decide +kernel) c hc

namespace Statement

/-- A word is taken up to the character that ends it. -/
theorem takeWhile_word {word : List Char} (hword : ∀ c ∈ word, Text.isWordChar c = true) {d : Char}
    (hd : Text.isWordChar d = false) (rest : List Char) :
    (word ++ d :: rest).takeWhile Text.isWordChar = word ∧
      (word ++ d :: rest).dropWhile Text.isWordChar = d :: rest := by
  simp [List.takeWhile_append_of_pos hword, List.dropWhile_append_of_pos hword, hd]

/-- A statement that begins with a word is read as what stands behind it says. -/
theorem read_append {word text : String} (hword : ∀ c ∈ word.toList, Text.isWordChar c = true)
    {d : Char} {rest : List Char} (htext : text.toList = d :: rest) (hd : Text.isWordChar d = false) :
    read (word ++ text) = behind word (d :: rest) := by
  obtain ⟨htake, hdrop⟩ := takeWhile_word hword hd rest
  rw [read, String.toList_append, htext, htake, hdrop, String.ofList_toList]

/-- No blank is part of a word. -/
theorem isWordChar_blank : Text.isWordChar ' ' = false := Text.isWordChar_of_isBlank rfl

/-- The start of a cluster opens a block of its name. -/
theorem read_subgraph {name : String} (h : ∀ c ∈ name.toList, Text.isWordChar c = true) :
    read ("subgraph " ++ clusterName name ++ " \x7b") = opens name := by
  obtain ⟨htake, hdrop⟩ := takeWhile_word h isWordChar_blank ['\x7b']
  have hsplit : "subgraph " ++ clusterName name ++ " \x7b" =
      "subgraph" ++ (" cluster_" ++ name ++ " \x7b") := by
    simp [clusterName, ← String.toList_inj]
  have hrest : (" cluster_" ++ name ++ " \x7b").toList =
      ' ' :: ("cluster_".toList ++ (name.toList ++ [' ', '\x7b'])) := by
    simp
  have hdropped : Text.dropStart? "cluster_".toList ("cluster_".toList ++ (name.toList ++ [' ', '\x7b'])) =
      some (name.toList ++ [' ', '\x7b']) := Text.dropStart?_eq_some_iff.2 rfl
  have hnone : Text.dropStart? "[".toList ("cluster_".toList ++ (name.toList ++ [' ', '\x7b'])) =
      none := by
    simp [Text.dropStart?]
  rw [hsplit, read_append (List.all_eq_true.1 (by decide +kernel)) hrest isWordChar_blank, behind,
    behindBlank, hnone, hdropped]
  simp only [htake, hdrop, and_self, if_true, String.ofList_toList]

/-- A name with attributes behind it declares a node, with a label if the attributes begin so. -/
theorem read_node {name attributes : String} (h : ∀ c ∈ name.toList, Text.isWordChar c = true) :
    read (name ++ " [" ++ attributes) =
      node name (Text.dropStart? "label=".toList attributes.toList).isSome := by
  have hrest : (" [" ++ attributes).toList = ' ' :: ("[".toList ++ attributes.toList) := by
    simp
  rw [String.append_assoc, read_append h hrest isWordChar_blank, behind, behindBlank,
    Text.dropStart?_eq_some_iff.2 rfl]

/-- The statement of a point declares a node without a label. -/
theorem read_point {name : String} (h : ∀ c ∈ name.toList, Text.isWordChar c = true) :
    read (point name) = node name false := by
  have hsplit : point name = name ++ " [" ++ "style=invis,shape=point,penwidth=0]" := by
    simp [point, ← String.toList_inj]
  rw [hsplit, read_node h]
  simp [Text.dropStart?]

/-- The statement of a leaf declares a node with a label. -/
theorem read_leafStatement (h : IsPath state) :
    read (leafStatement active state) = node (canonical state) true := by
  have hsplit : leafStatement active state = canonical state ++ " [" ++ ("label=" ++
      (label (canonical state) ++ (if active.contains (canonical state) then
        ", style=filled, fillcolor=yellow" else "") ++ "]")) := by
    simp [leafStatement, ← String.toList_inj]
  rw [hsplit, read_node fun _ => isWordChar_of_mem_canonical h, String.toList_append,
    Text.dropStart?_eq_some_iff.2 rfl, Option.isSome_some]

/-- A label that is given by itself is a setting. -/
theorem read_label (value : String) : read ("label=" ++ value) = setting := by
  have hsplit : "label=" ++ value = "label" ++ ("=" ++ value) := by
    simp [← String.toList_inj]
  have hrest : ("=" ++ value).toList = '=' :: value.toList := by
    simp
  rw [hsplit, read_append (List.all_eq_true.1 (by decide +kernel)) hrest (by decide +kernel)]
  simp [behind]

/-- Two words with an arrow between them draw an edge. -/
theorem read_edge {source head : String} (hsource : ∀ c ∈ source.toList, Text.isWordChar c = true)
    (hhead : ∀ c ∈ head.toList, Text.isWordChar c = true) (attributes : String) :
    read (source ++ "->" ++ head ++ " [" ++ attributes) = edge source head := by
  have hsplit : source ++ "->" ++ head ++ " [" ++ attributes =
      source ++ ("->" ++ head ++ " [" ++ attributes) := by
    simp only [String.append_assoc]
  have hrest : ("->" ++ head ++ " [" ++ attributes).toList =
      '-' :: '>' :: (head.toList ++ ' ' :: '[' :: attributes.toList) := by
    simp
  rw [hsplit, read_append hsource hrest (by decide +kernel), behind,
    (takeWhile_word hhead isWordChar_blank _).1, String.ofList_toList]

end Statement

/-- The start of a cluster opens a block, in which there are settings and, unless it is the root, the
point for leaving it. -/
theorem map_read_clusterStart (chart : Statechart) (active : List String) (h : IsPath state) :
    ∃ heading, (chart.clusterStart active state).map Statement.read =
        .opens (canonical state) :: heading ∧
      ∀ s, s ∈ heading ↔ s = .setting ∨ state ≠ chart.root ∧ s = .node (canonical state) false := by
  have hname (c : Char) (hc : c ∈ (canonical state).toList) : Text.isWordChar c = true :=
    isWordChar_of_mem_canonical h hc
  refine ⟨_, by rw [clusterStart, List.append_assoc, List.map_append, List.map_singleton,
    Statement.read_subgraph hname, List.singleton_append], fun s => ?_⟩
  have hset : Statement.read "style=filled" = .setting ∧ Statement.read "fillcolor=yellow" = .setting ∧
      Statement.read "style=dashed" = .setting := by
    decide +kernel
  -- Every setting is one, whichever of them there are.
  by_cases hroot : state = chart.root
  · rw [if_pos hroot]
    split <;> simp [hroot, Statement.read_label, hset]
  · rw [if_neg hroot]
    split <;> split <;> simp [hroot, Statement.read_label, Statement.read_point hname, hset] <;> grind

/-- The end of a cluster closes a block, in which there is the point for entering it unless it is the
root. -/
theorem map_read_clusterEnd (h : IsPath state) : (chart.clusterEnd state).map Statement.read =
    (if state = chart.root then [] else [.node (entryName (canonical state)) false]) ++ [.closes] := by
  have hentry (c : Char) (hc : c ∈ (entryName (canonical state)).toList) : Text.isWordChar c = true :=
    isWordChar_of_mem_entryName h hc
  have hclose : Statement.read "\x7d" = .closes := by decide +kernel
  by_cases hroot : state = chart.root
  · simp [clusterEnd, hroot, hclose]
  · simp [clusterEnd, hroot, Statement.read_point hentry, hclose]

/-- What follows the opening of a block in the start of a cluster is said aside. -/
theorem aside_of_mem_heading {heading : List Statement}
    (h : ∀ s, s ∈ heading ↔ s = .setting ∨ state ≠ chart.root ∧ s = .node (canonical state) false) :
    ∀ s ∈ heading, s.IsAside := by
  intro s hs
  rcases (h s).1 hs with rfl | ⟨-, rfl⟩
  · exact ⟨rfl, nofun⟩
  · exact ⟨rfl, nofun⟩

/-! ### Putting statements together -/

/-- What is said aside changes no outline. -/
theorem foldrM_putBefore_of_aside {aside : List Statement} (h : ∀ s ∈ aside, s.IsAside)
    (outer : List Outline) : aside.foldrM Statement.putBefore outer = some outer := by
  induction aside with
  | nil => rfl
  | cons s aside ih =>
    rw [List.forall_mem_cons] at h
    obtain ⟨⟨hshows, hcloses⟩, haside⟩ := h
    rw [List.foldrM_cons, ih haside]
    cases s with
    | opens cluster => cases hshows
    | closes => exact absurd rfl hcloses
    | node name labelled =>
      obtain rfl : labelled = false := hshows
      rfl
    | edge source head => rfl
    | setting => rfl

/-- The start of a cluster encloses what was put together up to its end. -/
theorem foldrM_read_clusterStart (chart : Statechart) (active : List String) (h : IsPath state)
    (inner rest : Outline) (outer : List Outline) :
    ((chart.clusterStart active state).map Statement.read).foldrM Statement.putBefore
      (inner :: rest :: outer) = some (.entry (canonical state) inner rest :: outer) := by
  obtain ⟨heading, hstart, hheading⟩ := map_read_clusterStart chart active h
  rw [hstart, List.foldrM_cons, foldrM_putBefore_of_aside (aside_of_mem_heading hheading)]
  rfl

/-- The end of a cluster begins an outline. -/
theorem foldrM_read_clusterEnd (h : IsPath state) (outer : List Outline) :
    ((chart.clusterEnd state).map Statement.read).foldrM Statement.putBefore outer =
      some (.nil :: outer) := by
  rw [map_read_clusterEnd h, List.foldrM_append]
  exact foldrM_putBefore_of_aside (by split <;> simp [Statement.IsAside, Statement.shows]) _

/-- A state that is not drawn as a cluster has no children. -/
theorem childrenOf_of_not_isCluster (h : chart.isCluster deepest state = false) :
    chart.childrenOf state = [] := by
  rw [isCluster, Bool.or_eq_false_iff, Bool.not_eq_false', isLeaf, List.isEmpty_iff] at h
  exact h.1

variable {o : Outline}

/-- What is drawn of an outline has that outline, with the names that are written. -/
theorem Outline.foldrM_read_draw (h : o.Follows chart) (hpath : ∀ state ∈ o.states, IsPath state)
    (outer : List Outline) :
    ((o.draw chart deepest active).map Statement.read).foldrM Statement.putBefore (.nil :: outer) =
      some (o.map canonical :: outer) := by
  induction o generalizing outer with
  | nil => rfl
  | entry state below rest ihbelow ihrest =>
    obtain ⟨hheads, hbelow, hrest⟩ := h
    simp only [states, List.forall_mem_cons, List.forall_mem_append] at hpath
    obtain ⟨hstate, hpathBelow, hpathRest⟩ := hpath
    rw [draw, List.map_append, List.foldrM_append, ihrest hrest hpathRest]
    cases hcluster : chart.isCluster deepest state with
    | true =>
      have hinner := ihbelow hbelow hpathBelow (rest.map canonical :: outer)
      have hstart := foldrM_read_clusterStart chart active hstate
        (below.map canonical) (rest.map canonical) outer
      simp only [if_true, List.map_append, List.foldrM_append, foldrM_read_clusterEnd hstate,
        Option.bind_eq_bind, Option.bind_some, hinner, hstart, map]
    | false =>
      obtain rfl := eq_nil_of_heads (hheads.trans (childrenOf_of_not_isCluster hcluster))
      simp only [Bool.false_eq_true, if_false, draw, List.map_cons, List.map_nil,
        Statement.read_leafStatement hstate]
      rfl

/-! ### States that are shown -/

/-- The statement that shows a state. -/
def showing (chart : Statechart) (deepest : Nat) (state : String) : Statement :=
  if chart.isCluster deepest state then .opens (canonical state) else .node (canonical state) true

/-- What is said aside shows no state. -/
theorem filter_shows_of_aside {aside : List Statement} (h : ∀ s ∈ aside, s.IsAside) :
    aside.filter Statement.shows = [] :=
  List.filter_eq_nil_iff.2 fun s hs => by rw [(h s hs).1]; exact Bool.false_ne_true

/-- The start of a cluster shows its state. -/
theorem filter_shows_clusterStart (chart : Statechart) (active : List String) (h : IsPath state) :
    ((chart.clusterStart active state).map Statement.read).filter Statement.shows =
      [.opens (canonical state)] := by
  obtain ⟨heading, hstart, hheading⟩ := map_read_clusterStart chart active h
  rw [hstart, List.filter_cons_of_pos rfl, filter_shows_of_aside (aside_of_mem_heading hheading)]

/-- The end of a cluster shows no state. -/
theorem filter_shows_clusterEnd (chart : Statechart) (h : IsPath state) :
    ((chart.clusterEnd state).map Statement.read).filter Statement.shows = [] := by
  rw [map_read_clusterEnd h]
  split <;> rfl

/-- Each entry of an outline is shown once, in the order of the outline. -/
theorem Outline.filter_shows_draw (h : o.Follows chart) (hpath : ∀ state ∈ o.states, IsPath state) :
    ((o.draw chart deepest active).map Statement.read).filter Statement.shows =
      o.states.map (chart.showing deepest) := by
  induction o with
  | nil => rfl
  | entry state below rest ihbelow ihrest =>
    obtain ⟨hheads, hbelow, hrest⟩ := h
    simp only [states, List.forall_mem_cons, List.forall_mem_append] at hpath
    obtain ⟨hstate, hpathBelow, hpathRest⟩ := hpath
    rw [draw, List.map_append, List.filter_append, ihrest hrest hpathRest, states, List.map_cons,
      List.map_append, ← List.cons_append]
    congr 1
    cases hcluster : chart.isCluster deepest state with
    | true =>
      simp only [if_true, List.map_append, List.filter_append,
        filter_shows_clusterStart chart active hstate, ihbelow hbelow hpathBelow,
        filter_shows_clusterEnd chart hstate, List.append_nil, List.singleton_append, showing, hcluster]
    | false =>
      obtain rfl := eq_nil_of_heads (hheads.trans (childrenOf_of_not_isCluster hcluster))
      simp [draw, states, Statement.read_leafStatement hstate, showing, hcluster, Statement.shows]

/-- Whether a statement is one of those of a state: the one that shows it, or, if it is drawn as a
cluster, a setting, the end of its block, or one of the points, which only the root does not have. -/
def Says (chart : Statechart) (deepest : Nat) (state : String) (s : Statement) : Prop :=
  s = chart.showing deepest state ∨ chart.isCluster deepest state = true ∧
    ((s = .setting ∨ state ≠ chart.root ∧ s = .node (canonical state) false) ∨ s = .closes ∨
      state ≠ chart.root ∧ s = .node (entryName (canonical state)) false)

/-- The statements of a cluster are those of its start and of its end. -/
theorem says_iff_of_isCluster (active : List String) (h : IsPath state)
    (hcluster : chart.isCluster deepest state = true)
    {s : Statement} : chart.Says deepest state s ↔
      s ∈ (chart.clusterStart active state).map Statement.read ∨
        s ∈ (chart.clusterEnd state).map Statement.read := by
  obtain ⟨heading, hstart, hheading⟩ := map_read_clusterStart chart active h
  have hend : s ∈ (chart.clusterEnd state).map Statement.read ↔
      s = .closes ∨ state ≠ chart.root ∧ s = .node (entryName (canonical state)) false := by
    rw [map_read_clusterEnd h]
    by_cases hroot : state = chart.root <;> simp [hroot, or_comm]
  rw [Says, showing, if_pos hcluster, hstart, List.mem_cons, hheading, hend]
  simp only [hcluster, true_and, or_assoc]

/-- A state that is not drawn as a cluster has one statement. -/
theorem says_iff_of_not_isCluster (h : chart.isCluster deepest state = false) {s : Statement} :
    chart.Says deepest state s ↔ s = .node (canonical state) true := by
  simp [Says, showing, h]

/-- What is drawn of an outline are the statements of its states. -/
theorem Outline.mem_read_draw_iff (h : o.Follows chart) (hpath : ∀ state ∈ o.states, IsPath state)
    {s : Statement} : s ∈ (o.draw chart deepest active).map Statement.read ↔
      ∃ state ∈ o.states, chart.Says deepest state s := by
  induction o with
  | nil => simp [draw, states]
  | entry state below rest ihbelow ihrest =>
    obtain ⟨hheads, hbelow, hrest⟩ := h
    simp only [states, List.forall_mem_cons, List.forall_mem_append] at hpath
    obtain ⟨hstate, hpathBelow, hpathRest⟩ := hpath
    rw [draw, List.map_append, List.mem_append, ihrest hrest hpathRest, states, List.exists_mem_cons_iff]
    simp only [List.mem_append, or_and_right, exists_or]
    rw [← or_assoc]
    refine or_congr_left ?_
    cases hcluster : chart.isCluster deepest state with
    | true =>
      rw [says_iff_of_isCluster active hstate hcluster, if_pos rfl, List.map_append,
        List.map_append, List.mem_append, List.mem_append, ihbelow hbelow hpathBelow, or_right_comm]
    | false =>
      obtain rfl := eq_nil_of_heads (hheads.trans (childrenOf_of_not_isCluster hcluster))
      simp [says_iff_of_not_isCluster hcluster, draw, states, Statement.read_leafStatement hstate]

end StateExplorer.Statechart
