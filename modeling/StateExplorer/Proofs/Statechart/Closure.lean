import StateExplorer.Proofs.Statechart.Reading

/-!
# Drawings that are closed

A drawing is closed if its blocks nest as the chart does and what its edges refer to is declared in
it. The clusters that an edge is attached to are all there, and so are the ends of the edges, with
one exception: the root has no points to leave it and to enter it, so where it has children and is
drawn as a cluster, the edges of its own transitions end in nodes that are declared nowhere.
-/

namespace StateExplorer.Statechart

variable {chart : Statechart} {state : String} {active : List String} {o : Outline}

/-! ### Edges -/

/-- The name at the head of the edge of a transition. -/
def headName (chart : Statechart) (t : ChartTransition) : String :=
  if chart.isCluster chart.maxDepth t.target then entryName (canonical t.target)
  else canonical t.target

/-- What attaches the edge of a transition to clusters. -/
def marks (chart : Statechart) (t : ChartTransition) : List String :=
  (if chart.isCluster chart.maxDepth t.source then ["ltail=" ++ clusterName (canonical t.source)] else []) ++
    if chart.isCluster chart.maxDepth t.target then ["lhead=" ++ clusterName (canonical t.target)] else []

/-- The statement of an edge. -/
def edgeStatement (source head : String) (attributes : List String) : String :=
  source ++ "->" ++ head ++ " [" ++ (",".intercalate attributes ++ "]")

/-- A transition is drawn as an edge that has its label, and is attached to the clusters among its
ends. -/
theorem drawTransition_eq (chart : Statechart) (t : ChartTransition) :
    chart.drawTransition chart.maxDepth t =
      edgeStatement (canonical t.source) (chart.headName t)
        (("label=" ++ canonical t.name) :: chart.marks t) := by
  simp only [drawTransition, edgeStatement, headName, marks, List.cons_append, List.nil_append,
    String.append_assoc]

/-- The statement of a transition is read as an edge between two names. -/
theorem read_drawTransition {t : ChartTransition} (hsource : IsPath t.source) (htarget : IsPath t.target) :
    Statement.read (chart.drawTransition chart.maxDepth t) =
      .edge (canonical t.source) (chart.headName t) := by
  rw [drawTransition_eq]
  refine Statement.read_edge (fun _ => isWordChar_of_mem_canonical hsource) ?_ _
  rw [headName]
  split
  · exact fun _ => isWordChar_of_mem_entryName htarget
  · exact fun _ => isWordChar_of_mem_canonical htarget

/-- The edges of a chart. -/
def edges (chart : Statechart) : List Statement :=
  chart.transitions.map fun t => .edge (canonical t.source) (chart.headName t)

/-- An edge is said aside. -/
theorem aside_of_mem_edges (chart : Statechart) : ∀ s ∈ chart.edges, s.IsAside :=
  List.forall_mem_map.2 fun _ _ => ⟨rfl, nofun⟩

/-- Whether the outline of a chart lists paths only, and both ends of every transition. -/
structure Written (chart : Statechart) (o : Outline) : Prop where
  outlined : chart.Outlined o
  path : ∀ state ∈ o.states, IsPath state
  ends : ∀ t ∈ chart.transitions, t.source ∈ o.states ∧ t.target ∈ o.states

/-- A drawing is read as two settings, the statements of the outline, an edge for each transition, and
the end. -/
theorem Written.map_read_statements (h : chart.Written o) :
    (chart.statements active).map Statement.read =
      .setting :: .setting ::
        ((o.draw chart chart.maxDepth active).map Statement.read ++ chart.edges ++ [.closes]) := by
  have hfixed : Statement.read "digraph G \x7b" = .setting ∧ Statement.read "compound=true" = .setting ∧
      Statement.read "\x7d" = .closes := by
    decide +kernel
  have hedges : (chart.transitions.map (chart.drawTransition chart.maxDepth)).map Statement.read =
      chart.edges := by
    rw [List.map_map, edges]
    refine List.map_congr_left fun t ht => ?_
    obtain ⟨hsource, htarget⟩ := h.ends t ht
    rw [Function.comp_apply, read_drawTransition (h.path _ hsource) (h.path _ htarget)]
  simp only [statements, h.outlined.drawState_eq (Nat.le_refl _), List.map_append, hedges, List.map_cons,
    List.map_nil, hfixed, List.cons_append, List.nil_append]

/-- The blocks and labelled nodes of a drawing nest as the outline of its chart does. -/
theorem Written.readOutline?_statements (h : chart.Written o) :
    readOutline? (chart.statements active) = some (o.map canonical) := by
  have hfirst : chart.statements active = "digraph G \x7b" :: (chart.statements active).tail := rfl
  have hafter : (chart.edges ++ [Statement.closes]).foldrM Statement.putBefore [.nil] =
      some [.nil, .nil] := by
    rw [List.foldrM_append]
    exact foldrM_putBefore_of_aside chart.aside_of_mem_edges _
  have hall : ((chart.statements active).tail.map Statement.read).foldrM Statement.putBefore [.nil] =
      some [o.map canonical, .nil] := by
    rw [List.map_tail, h.map_read_statements, List.tail_cons, List.foldrM_cons, List.append_assoc,
      List.foldrM_append, hafter]
    simp only [Option.bind_eq_bind, Option.bind_some,
      Outline.foldrM_read_draw h.outlined.follows h.path]
    rfl
  rw [hfirst, readOutline?, if_pos rfl, hall]

/-- The states of an outline are shown in its order. -/
theorem Written.filter_shows_statements (h : chart.Written o) :
    ((chart.statements active).map Statement.read).filter Statement.shows =
      o.states.map (chart.showing chart.maxDepth) := by
  have hedges : chart.edges.filter Statement.shows = [] :=
    filter_shows_of_aside chart.aside_of_mem_edges
  have hclose : [Statement.closes].filter Statement.shows = [] := rfl
  rw [h.map_read_statements, List.filter_cons_of_neg Bool.false_ne_true,
    List.filter_cons_of_neg Bool.false_ne_true, List.filter_append, List.filter_append, hedges, hclose,
    Outline.filter_shows_draw h.outlined.follows h.path, List.append_nil, List.append_nil]

/-! ### Names that are declared -/

/-- Whether a drawing declares a node. -/
def Declares (chart : Statechart) (active : List String) (name : String) : Prop :=
  ∃ labelled, Statement.node name labelled ∈ (chart.statements active).map Statement.read

instance (name : String) : Decidable (chart.Declares active name) :=
  inferInstanceAs (Decidable (∃ _, _))

/-- Whether a drawing has a cluster. -/
def HasCluster (chart : Statechart) (active : List String) (name : String) : Prop :=
  Statement.opens name ∈ (chart.statements active).map Statement.read

/-- The root is drawn as a cluster if it has children, as it is the deepest state otherwise. -/
theorem Outlined.isCluster_root (h : chart.Outlined o) :
    chart.isCluster chart.maxDepth chart.root = !chart.isLeaf chart.root := by
  cases hleaf : chart.isLeaf chart.root with
  | false => rw [isCluster, hleaf, Bool.not_false, Bool.true_or]
  | true =>
    obtain ⟨state, hstate⟩ := h.maxDepth_spec.1
    have hreached : chart.Reaches state :=
      h.mem_states_iff.1 (h.isSome_depth?_iff.1 (by rw [hstate]; rfl))
    have hroot : state = chart.root := by
      rcases Relation.ReflTransGen.cases_head hreached with hroot | ⟨kid, hkid, -⟩
      · exact hroot.symm
      · rw [isLeaf, List.isEmpty_iff] at hleaf
        rw [Child, hleaf] at hkid
        cases hkid
    rw [hroot] at hstate
    rw [isCluster, hleaf, hstate, bne_self_eq_false]
    rfl

/-- The names of clusters are those of the states that are drawn so. -/
theorem Written.hasCluster (h : chart.Written o) (hstate : state ∈ o.states)
    (hcluster : chart.isCluster chart.maxDepth state = true) :
    chart.HasCluster active (canonical state) := by
  have hsays : chart.Says chart.maxDepth state (.opens (canonical state)) := by
    rw [Says, showing, if_pos hcluster]
    exact .inl rfl
  have hdrawn : .opens (canonical state) ∈ (o.draw chart chart.maxDepth active).map Statement.read :=
    (Outline.mem_read_draw_iff h.outlined.follows h.path).2 ⟨state, hstate, hsays⟩
  rw [HasCluster, h.map_read_statements]
  simp [hdrawn]

/-- The names of nodes are those of the states, except of a root that is drawn as a cluster, and those
for entering the other clusters. -/
theorem Written.declares_iff (h : chart.Written o) {name : String} :
    chart.Declares active name ↔ ∃ state ∈ o.states,
      (chart.isCluster chart.maxDepth state = true → state ≠ chart.root) ∧
        (name = canonical state ∨
          chart.isCluster chart.maxDepth state = true ∧ name = entryName (canonical state)) := by
  have hsays (state : String) : (∃ labelled, chart.Says chart.maxDepth state (.node name labelled)) ↔
      (chart.isCluster chart.maxDepth state = true → state ≠ chart.root) ∧
        (name = canonical state ∨
          chart.isCluster chart.maxDepth state = true ∧ name = entryName (canonical state)) := by
    cases hcluster : chart.isCluster chart.maxDepth state with
    | false => simp [says_iff_of_not_isCluster hcluster]
    | true => simp [Says, showing, hcluster, and_or_left]
  simp only [← hsays, Declares, h.map_read_statements, List.mem_cons, List.mem_append,
    Outline.mem_read_draw_iff h.outlined.follows h.path, edges, List.mem_map]
  constructor
  · rintro ⟨labelled, hsetting | hsetting | (⟨state, hstate, hsays⟩ | ⟨t, -, hedge⟩) | hclose⟩
    · cases hsetting
    · cases hsetting
    · exact ⟨state, hstate, labelled, hsays⟩
    · cases hedge
    · simp at hclose
  · rintro ⟨state, hstate, labelled, hsays⟩
    exact ⟨labelled, .inr (.inr (.inl (.inl ⟨state, hstate, hsays⟩)))⟩

/-! ### Lines -/

/-- The characters of a label are among those of the name. -/
theorem mem_of_mem_label {name : String} {c : Char} (h : c ∈ (label name).toList) : c ∈ name.toList := by
  unfold label at h
  cases hcut : Text.cutLast? '_' name.toList with
  | none => rwa [hcut] at h
  | some pieces =>
    obtain ⟨before, last⟩ := pieces
    rw [hcut, String.toList_ofList] at h
    rw [Text.eq_of_cutLast? hcut]
    exact List.mem_append_right _ (List.mem_cons_of_mem _ h)

/-- Writing a name for a drawing breaks no line. -/
theorem not_feed_canonical {name : String} (h : '\n' ∉ name.toList) : '\n' ∉ (canonical name).toList := by
  rw [canonical, String.toList_ofList, List.mem_map]
  rintro ⟨c, hc, hfeed⟩
  split at hfeed
  · exact absurd hfeed (by decide)
  · exact h (hfeed ▸ hc)

/-- No path has a line feed. -/
theorem IsPath.not_feed (h : IsPath state) : '\n' ∉ state.toList := fun hmem => by
  rcases h '\n' hmem with hword | hslash
  · exact absurd hword (by decide +kernel)
  · exact absurd hslash (by decide)

/-- No statement of an outline has a line feed. -/
theorem Outline.not_feed_of_mem_draw (hpath : ∀ state ∈ o.states, IsPath state) {deepest : Nat} :
    ∀ line ∈ o.draw chart deepest active, '\n' ∉ line.toList := by
  induction o with
  | nil => exact nofun
  | entry state below rest ihbelow ihrest =>
    simp only [states, List.forall_mem_cons, List.forall_mem_append] at hpath
    obtain ⟨hstate, hpathBelow, hpathRest⟩ := hpath
    have hname := not_feed_canonical hstate.not_feed
    have hlabel : '\n' ∉ (label (canonical state)).toList := fun hmem => hname (mem_of_mem_label hmem)
    have hstart : ∀ line ∈ chart.clusterStart active state, '\n' ∉ line.toList := by
      simp only [clusterStart, clusterName, List.forall_mem_append]
      refine ⟨⟨by simp [hname], ?_⟩, by split <;> simp⟩
      split
      · simp [hname]
      · split <;> simp [point, hname, hlabel]
    have hend : ∀ line ∈ chart.clusterEnd state, '\n' ∉ line.toList := by
      unfold clusterEnd
      split <;> simp [point, entryName, hname]
    have hleaf : '\n' ∉ (leafStatement active state).toList := by
      simp only [leafStatement]
      split <;> simp [hname, hlabel]
    rw [draw, List.forall_mem_append]
    refine ⟨?_, ihrest hpathRest⟩
    split
    · simp only [List.forall_mem_append]
      exact ⟨⟨hstart, ihbelow hpathBelow⟩, hend⟩
    · exact List.forall_mem_cons.2 ⟨hleaf, ihbelow hpathBelow⟩

/-- The lines of a drawing are its statements, if no name of a transition has a line feed. -/
theorem Written.splitOn_drawing (h : chart.Written o)
    (hnames : ∀ t ∈ chart.transitions, '\n' ∉ t.name.toList) :
    (chart.drawing active).toList.splitOn '\n' = (chart.statements active).map String.toList ++ [[]] := by
  have hedge : ∀ t ∈ chart.transitions, '\n' ∉ (chart.drawTransition chart.maxDepth t).toList := by
    intro t ht
    have hname := not_feed_canonical (hnames t ht)
    have hsource := not_feed_canonical (h.path _ (h.ends t ht).1).not_feed
    have htarget := not_feed_canonical (h.path _ (h.ends t ht).2).not_feed
    simp only [drawTransition]
    split <;> split <;> simp [clusterName, entryName, hname, hsource, htarget]
  have hstatements : ∀ line ∈ chart.statements active ++ [""], '\n' ∉ line.toList := by
    simp only [statements, h.outlined.drawState_eq (Nat.le_refl _), List.forall_mem_append,
      List.forall_mem_map]
    exact ⟨⟨⟨⟨by simp, Outline.not_feed_of_mem_draw h.path⟩, hedge⟩, by simp⟩, by simp⟩
  have hdrawing : chart.drawing active = "\n".intercalate (chart.statements active ++ [""]) := by
    rw [drawing, String.intercalate_append_of_ne_nil (by simp [statements]) (by simp)]
    simp
  have hfeed : "\n".toList = ['\n'] := by decide
  rw [hdrawing, String.toList_intercalate, hfeed, List.splitOn_intercalate]
  · simp
  · exact List.forall_mem_map.2 hstatements
  · simp

/-! ### Closed drawings -/

/-- Whether the edge of a transition has its ends in the drawing: what attaches it names clusters, and
its two names are declared where the end is not the root, or the root is a leaf. Where the root has
children they are not, unless another name looks like that of a point for entering a cluster. -/
structure Attached (chart : Statechart) (active : List String) (t : ChartTransition) (head : String)
    (marks : List String) : Prop where
  drawn : chart.drawTransition chart.maxDepth t ∈ chart.statements active
  eq_edge : chart.drawTransition chart.maxDepth t =
    edgeStatement (canonical t.source) head (("label=" ++ canonical t.name) :: marks)
  read : Statement.read (chart.drawTransition chart.maxDepth t) = .edge (canonical t.source) head
  cluster_of_mark : ∀ mark ∈ marks, ∃ cluster, chart.HasCluster active cluster ∧
    (mark = "ltail=" ++ clusterName cluster ∨ mark = "lhead=" ++ clusterName cluster)
  source_declared : t.source ≠ chart.root ∨ chart.isLeaf chart.root = true →
    chart.Declares active (canonical t.source)
  head_declared : t.target ≠ chart.root ∨ chart.isLeaf chart.root = true →
    chart.Declares active head
  only_if : (∀ state ∈ chart.states, ¬"_other_side".toList <:+ (canonical state).toList) →
    (chart.Declares active (canonical t.source) → t.source ≠ chart.root ∨ chart.isLeaf chart.root = true) ∧
      (chart.Declares active head → t.target ≠ chart.root ∨ chart.isLeaf chart.root = true)

/-- Whether the drawing of a chart is closed: its statements are its lines, its blocks and labelled
nodes nest as the outline of the chart does, with one for each state and all names different, and the
edges of the transitions have their ends in it. -/
structure Closed (chart : Statechart) (active : List String) (o : Outline) : Prop where
  outlined : chart.Outlined o
  lines : (∀ t ∈ chart.transitions, '\n' ∉ t.name.toList) →
    (chart.drawing active).toList.splitOn '\n' = (chart.statements active).map String.toList ++ [[]]
  nested : readOutline? (chart.statements active) = some (o.map canonical)
  shown : ((chart.statements active).map Statement.read).filter Statement.shows =
    chart.states.map (chart.showing chart.maxDepth)
  apart : (chart.states.map canonical).Nodup
  edges : ∀ t ∈ chart.transitions, ∃ head marks, chart.Attached active t head marks

/-- Of the clusters only the root has no points, and it is a cluster if it has children. -/
theorem Outlined.has_points_iff (h : chart.Outlined o) (state : String) :
    (chart.isCluster chart.maxDepth state = true → state ≠ chart.root) ↔
      state ≠ chart.root ∨ chart.isLeaf chart.root = true := by
  by_cases hstate : state = chart.root
  · simp [hstate, h.isCluster_root]
  · simp [hstate]

/-- The points for entering clusters of different names have different names. -/
theorem entryName_injective {a b : String} (h : entryName a = entryName b) : a = b := by
  rw [entryName, entryName, ← String.toList_inj, String.toList_append, String.toList_append] at h
  exact String.toList_inj.1 (List.append_cancel_right h)

/-- What attaches the edge of a transition names clusters. -/
theorem Written.exists_hasCluster (h : chart.Written o) {t : ChartTransition}
    (ht : t ∈ chart.transitions) {mark : String} (hmark : mark ∈ chart.marks t) :
    ∃ cluster, chart.HasCluster active cluster ∧
      (mark = "ltail=" ++ clusterName cluster ∨ mark = "lhead=" ++ clusterName cluster) := by
  rcases List.mem_append.1 hmark with hmark | hmark
  · split at hmark
    · exact ⟨_, h.hasCluster (h.ends t ht).1 ‹_›, .inl (List.mem_singleton.1 hmark)⟩
    · cases hmark
  · split at hmark
    · exact ⟨_, h.hasCluster (h.ends t ht).2 ‹_›, .inr (List.mem_singleton.1 hmark)⟩
    · cases hmark

/-- Each transition has an edge with its ends in the drawing. -/
theorem Written.attached (h : chart.Written o)
    (hcanonical : ∀ a ∈ o.states, ∀ b ∈ o.states, canonical a = canonical b → a = b)
    {t : ChartTransition} (ht : t ∈ chart.transitions) :
    chart.Attached active t (chart.headName t) (chart.marks t) := by
  obtain ⟨hsource, htarget⟩ := h.ends t ht
  constructor
  · simp only [statements, List.mem_append, List.mem_map]
    exact .inl (.inr ⟨t, ht, rfl⟩)
  · exact drawTransition_eq chart t
  · exact read_drawTransition (h.path _ hsource) (h.path _ htarget)
  · exact fun mark hmark => h.exists_hasCluster ht hmark
  · intro hcase
    exact h.declares_iff.2 ⟨t.source, hsource, (h.outlined.has_points_iff t.source).2 hcase, .inl rfl⟩
  · intro hcase
    refine h.declares_iff.2 ⟨t.target, htarget, (h.outlined.has_points_iff t.target).2 hcase, ?_⟩
    by_cases hcluster : chart.isCluster chart.maxDepth t.target = true
    · exact .inr ⟨hcluster, if_pos hcluster⟩
    · exact .inl (if_neg hcluster)
  · intro hother
    rw [h.outlined.states_eq] at hother
    have hentry {state : String} (hstate : state ∈ o.states) (name : String) :
        canonical state ≠ entryName name := by
      intro hname
      refine hother state hstate ?_
      rw [hname, entryName, String.toList_append]
      exact List.suffix_append _ _
    refine ⟨fun hdeclared => ?_, fun hdeclared => ?_⟩
    · obtain ⟨state, hstate, hcase, hname | ⟨-, hname⟩⟩ := h.declares_iff.1 hdeclared
      · rw [hcanonical _ hsource _ hstate hname]
        exact (h.outlined.has_points_iff state).1 hcase
      · exact absurd hname (hentry hsource _)
    · rw [← h.outlined.has_points_iff]
      intro hcluster
      rw [headName, if_pos hcluster] at hdeclared
      obtain ⟨state, hstate, hcase, hname | ⟨hstateCluster, hname⟩⟩ := h.declares_iff.1 hdeclared
      · exact absurd hname.symm (hentry hstate _)
      · rw [hcanonical _ htarget _ hstate (entryName_injective hname)]
        exact hcase hstateCluster

/-- The drawing of a chart without faults, all of whose names are paths that are written differently,
is closed. -/
theorem exists_closed (hvalid : chart.validate = .ok ()) (hpath : ∀ state ∈ chart.states, IsPath state)
    (hcanonical : ∀ a ∈ chart.states, ∀ b ∈ chart.states, canonical a = canonical b → a = b)
    (active : List String) : ∃ o, chart.Closed active o := by
  obtain ⟨htree, hreached⟩ := (validate_eq_ok_iff_tree chart).1 hvalid
  obtain ⟨o, ho⟩ := htree.exists_outlined
  have hwritten : chart.Written o := by
    refine ⟨ho, ho.states_eq ▸ hpath, fun t ht => ?_⟩
    exact ⟨ho.mem_states_iff.2 (hreached t ht).1, ho.mem_states_iff.2 (hreached t ht).2⟩
  exact ⟨o, {
    outlined := ho
    lines := hwritten.splitOn_drawing
    nested := hwritten.readOutline?_statements
    shown := ho.states_eq ▸ hwritten.filter_shows_statements
    apart := (states_spec chart).1.map_on hcanonical
    edges := fun t ht => ⟨_, _, hwritten.attached (ho.states_eq ▸ hcanonical) ht⟩ }⟩

/-- The drawing of the lights is closed. -/
theorem exists_closed_lights : lights.validate = .ok () ∧ (∀ state ∈ lights.states, IsPath state) ∧
    (∀ a ∈ lights.states, ∀ b ∈ lights.states, canonical a = canonical b → a = b) ∧
      ∃ o, lights.Closed ["Root_Lights_Red"] o := by
  have hvalid : lights.validate = .ok () := by decide +kernel
  have hpath : ∀ state ∈ lights.states, IsPath state := by decide +kernel
  have hcanonical : ∀ a ∈ lights.states, ∀ b ∈ lights.states, canonical a = canonical b → a = b := by
    decide +kernel
  exact ⟨hvalid, hpath, hcanonical, exists_closed hvalid hpath hcanonical _⟩

/-- A root with one state below it, which it goes to and which goes back. -/
def shuttle : Statechart where
  root := "Root"
  children := .ofList [("Root", ["Root/A"])]
  concurrent := []
  transitions := [⟨"go", "Root", "Root/A"⟩, ⟨"back", "Root/A", "Root"⟩]

/-- The edges that leave and enter a root with children have ends that the drawing declares nowhere. -/
theorem not_declares_shuttle : shuttle.validate = .ok () ∧ (∀ state ∈ shuttle.states, IsPath state) ∧
    (∀ a ∈ shuttle.states, ∀ b ∈ shuttle.states, canonical a = canonical b → a = b) ∧
    (∀ state ∈ shuttle.states, ¬"_other_side".toList <:+ (canonical state).toList) ∧
    shuttle.edges = [.edge "Root" "Root_A", .edge "Root_A" "Root_other_side"] ∧
    (∀ s ∈ shuttle.edges, s ∈ (shuttle.statements []).map Statement.read) ∧
    ¬shuttle.Declares [] "Root" ∧ ¬shuttle.Declares [] "Root_other_side" := by
  decide +kernel

end StateExplorer.Statechart
