import StateExplorer.Proofs.Session.Attachment
import StateExplorer.Session.Command
import StateExplorer.Solver.Scripted

/-!
# A failed command leaves everything as it was

Whatever a solver answers, a command that ends in an error leaves the exploration it was given. All
commands but one first read and ask, which changes nothing, and write only where nothing can fail
any more. Going back writes early, since it composes several steps, and then puts back the store,
the walk and the alternatives, which are all that it touches.
-/

namespace StateExplorer

namespace Explore

variable {σ : Type} {x : Exploration}

/-! ### What only reads -/

/-- Asking for readiness reads. -/
theorem reads_requireReady : (requireReady : Op σ Unit).Reads :=
  Op.reads_get.bind fun _ => Op.reads_require _ _

/-- Looking up the current stop reads. -/
theorem reads_current : (current : Op σ Stop).Reads :=
  Op.reads_get.bind fun _ => Op.reads_ofOption _ _

/-- Decoding a solution reads. -/
theorem reads_chainOf (profile : Profile) (solution : Solution) :
    (chainOf profile solution : Op σ (List State)).Reads :=
  Op.reads_get.bind fun _ => Op.reads_ofExcept _ _

/-- Asking for the initial state reads. -/
theorem reads_askInitial [Solver σ] (model : Model) (vocabulary : Vocabulary) :
    (askInitial model vocabulary : Op σ Solution).Reads :=
  Op.reads_ask _

/-- Choosing where chains start reads. -/
theorem reads_resumption (model : Model) (profile : Profile) :
    (resumption model profile : Op σ String).Reads := by
  refine Op.reads_get.bind fun x => ?_
  split
  · exact reads_current.bind fun _ => Op.reads_pure _
  · exact Op.reads_pure _

/-- Asking for chains reads. -/
theorem reads_solve [Solver σ] (goal : Goal) (bound : Nat) (profile : Profile) :
    (solve goal bound profile : Op σ Solution).Reads :=
  Op.reads_get.bind fun _ => (Op.reads_ofOption _ _).bind fun model =>
    (reads_resumption model profile).bind fun _ => Op.reads_ask _

/-- Checking a constraint reads. -/
theorem reads_validate [Solver σ] (constraint : String) (profile : Profile) :
    (validate constraint profile : Op σ Unit).Reads :=
  Op.reads_get.bind fun _ => (Op.reads_require _ _).bind fun _ =>
    (Op.reads_ofOption _ _).bind fun _ => Op.reads_check _

/-! ### What writes at its end -/

/-- Loading a model writes last. -/
theorem atomic_loadModel [Solver σ] (text : String) (profile : Profile) :
    (loadModel text profile : Op σ Unit).Atomic x := by
  refine (Op.reads_ofExcept _ _).bind_atomic fun own _ _ _ => ?_
  refine (Op.reads_ofExcept _ _).bind_atomic fun model _ _ _ => ?_
  refine (reads_askInitial _ _).bind_atomic fun solution _ _ _ => ?_
  refine (Op.reads_require _ _).bind_atomic fun _ _ _ _ => ?_
  refine (Op.reads_ofExcept _ _).bind_atomic fun decoded _ _ _ => ?_
  refine (Op.reads_ofExcept _ _).bind_atomic fun scopes _ _ _ => ?_
  refine (Op.reads_ofExcept _ _).bind_atomic fun stored _ _ _ => ?_
  refine (Op.reads_ofExcept _ _).bind_atomic fun stops _ _ _ => ?_
  exact Op.atomic_update _ _

/-- Loading a trace writes last. -/
theorem atomic_loadTrace (trace : Document) (profile : Profile) :
    (loadTrace trace profile : Op σ Unit).Atomic x := by
  refine (Op.reads_require _ _).bind_atomic fun _ _ _ _ => ?_
  refine (Op.reads_ofExcept _ _).bind_atomic fun decoded _ _ _ => ?_
  refine (Op.reads_ofExcept _ _).bind_atomic fun scopes _ _ _ => ?_
  refine (Op.reads_ofExcept _ _).bind_atomic fun stored _ _ _ => ?_
  refine (Op.reads_ofExcept _ _).bind_atomic fun stops _ _ _ => ?_
  exact Op.atomic_update _ _

/-- An extension turns the alternatives over without fail, so attaching decides. -/
theorem atomic_extend (solution : Solution) (profile : Profile) :
    (extend solution profile : Op σ Unit).Atomic x := by
  refine (reads_chainOf profile solution).bind_atomic fun chain s t _ => ?_
  split
  · exact reads_current.bind_atomic fun anchor _ _ _ => attach_atomic rfl
  · exact (Op.reads_fail _).atomic x

/-- Moving a replay forward writes last. -/
theorem atomic_advance (steps : Nat) : (advance steps : Op σ Unit).Atomic x := by
  refine Op.atomic_get_bind ?_
  refine (Op.reads_require _ _).bind_atomic fun _ _ _ _ => ?_
  refine (Op.reads_ofExcept _ _).bind_atomic fun walk _ _ _ => ?_
  exact Op.atomic_set _ _

/-- A step either moves a replay or extends the walk. -/
theorem atomic_step [Solver σ] (steps : Nat) (constraints : List String) (profile : Profile) :
    (step steps constraints profile : Op σ Unit).Atomic x := by
  refine reads_requireReady.bind_atomic fun _ _ _ _ => ?_
  refine (Op.reads_require _ _).bind_atomic fun _ _ _ _ => Op.atomic_get_bind ?_
  split
  · exact atomic_advance steps
  · refine (reads_solve _ _ _).bind_atomic fun solution _ _ _ => ?_
    refine (Op.reads_require _ _).bind_atomic fun _ _ _ _ => ?_
    exact atomic_extend solution profile

/-- Each bound that fails leaves everything, and the first one that does not ends the search. -/
theorem atomic_searchBounds [Solver σ] (goal : Goal) (missing : NoChain) (profile : Profile)
    (bound left : Nat) : (searchBounds goal missing profile bound left : Op σ Nat).Atomic x := by
  induction left generalizing bound with
  | zero => exact (Op.reads_fail _).atomic x
  | succ left ih =>
    refine (reads_solve _ _ _).bind_atomic fun solution _ _ _ => ?_
    split
    · exact (atomic_extend solution profile).bind_pure
    · exact ih (bound + 1)

/-- Moving on to a breakpoint is a search after some checks. -/
theorem atomic_runUntil [Solver σ] (limit : Nat) (profile : Profile) :
    (runUntil limit profile : Op σ Nat).Atomic x := by
  refine reads_requireReady.bind_atomic fun _ _ _ _ => Op.atomic_get_bind ?_
  refine (Op.reads_require _ _).bind_atomic fun _ _ _ _ => ?_
  refine (Op.reads_require _ _).bind_atomic fun _ _ _ _ => ?_
  refine (Op.reads_require _ _).bind_atomic fun _ _ _ _ => ?_
  exact atomic_searchBounds _ _ _ _ _

/-- Forcing a transition is a search after some checks. -/
theorem atomic_force [Solver σ] (name : String) (limit : Nat) (profile : Profile) :
    (force name limit profile : Op σ Nat).Atomic x := by
  refine reads_requireReady.bind_atomic fun _ _ _ _ => ?_
  refine (Op.reads_require _ _).bind_atomic fun _ _ _ _ => Op.atomic_get_bind ?_
  refine (Op.reads_require _ _).bind_atomic fun _ _ _ _ => ?_
  refine (Op.reads_require _ _).bind_atomic fun _ _ _ _ => ?_
  refine (Op.reads_ofOption _ _).bind_atomic fun transition _ _ _ => ?_
  exact atomic_searchBounds _ _ _ _ _

/-- Where a solution could be chosen, the alternatives can be turned over to it. -/
theorem exists_turned {alternatives : Alternatives} {reverse : Bool} {solution : Solution}
    (h : chosen alternatives reverse = .ok solution) :
    ∃ next, turned solution reverse alternatives = .ok next := by
  obtain ⟨shown⟩ := alternatives
  cases reverse with
  | false => exact ⟨_, rfl⟩
  | true =>
    match shown with
    | [] => simp [chosen, Alternatives.previous?] at h
    | [_] => simp [chosen, Alternatives.previous?] at h
    | _ :: previous :: rest => exact ⟨⟨previous :: rest⟩, rfl⟩

/-- An alternative is attached once it was chosen, so the alternatives turn over to it. -/
theorem atomic_alternate (reverse : Bool) (profile : Profile) :
    (alternate reverse profile : Op σ Unit).Atomic x := by
  refine reads_requireReady.bind_atomic fun _ _ _ _ => Op.atomic_get_bind ?_
  refine (Op.reads_ofExcept _ _).bind_atomic fun solution _ _ hchosen => ?_
  obtain ⟨next, hnext⟩ := exists_turned (Op.of_ofExcept_ok hchosen).1
  refine (reads_chainOf profile solution).bind_atomic fun chain _ _ _ => ?_
  split
  · exact (Op.reads_fail _).atomic x
  · exact attach_atomic hnext
  · exact Op.atomic_get_bind <| (Op.reads_ofOption _ _).bind_atomic fun anchor _ _ _ =>
      attach_atomic hnext

/-- A reset writes last. -/
theorem atomic_reset [Solver σ] (profile : Profile) : (reset profile : Op σ Unit).Atomic x := by
  refine reads_requireReady.bind_atomic fun _ _ _ _ => Op.atomic_get_bind ?_
  split
  · exact Op.atomic_set _ _
  · refine (Op.reads_ofOption _ _).bind_atomic fun model _ _ _ => ?_
    refine (reads_askInitial _ _).bind_atomic fun solution _ _ _ => ?_
    refine (Op.reads_require _ _).bind_atomic fun _ _ _ _ => ?_
    refine (reads_chainOf _ _).bind_atomic fun chain _ _ _ => ?_
    split
    · exact (Op.reads_fail _).atomic x
    · exact Op.atomic_update _ _

/-- Moving the cursor of a replay writes last. -/
theorem atomic_seekStop (id : Nat) : (seekStop id : Op σ Unit).Atomic x := by
  refine Op.atomic_get_bind ?_
  refine (Op.reads_require _ _).bind_atomic fun _ _ _ _ => ?_
  dsimp only
  split
  · exact Op.atomic_set _ _
  · refine (Op.reads_ofExcept _ _).bind_atomic fun walk _ _ _ => ?_
    exact Op.atomic_set _ _

/-- Going to a stored state writes last. -/
theorem atomic_moveTo (id : Nat) (profile : Profile) :
    (moveTo id profile : Op σ Unit).Atomic x := by
  refine reads_requireReady.bind_atomic fun _ _ _ _ => Op.atomic_get_bind ?_
  refine (Op.reads_ofExcept _ _).bind_atomic fun node _ _ _ => ?_
  split
  · exact atomic_seekStop id
  · refine (Op.reads_require _ _).bind_atomic fun _ _ _ _ => ?_
    refine (Op.reads_ofExcept _ _).bind_atomic fun stops _ _ _ => ?_
    exact Op.atomic_set _ _

/-- A breakpoint is added after it was checked. -/
theorem atomic_addBreakpoint [Solver σ] (constraint : String) (profile : Profile) :
    (addBreakpoint constraint profile : Op σ Nat).Atomic x := by
  refine (reads_validate constraint profile).bind_atomic fun _ _ _ _ => Op.atomic_get_bind ?_
  exact (Op.atomic_set _ _).bind_pure

/-- A breakpoint is removed after it was found. -/
theorem atomic_removeBreakpoint (index : Nat) (profile : Profile) :
    (removeBreakpoint index profile : Op σ String).Atomic x := by
  refine Op.atomic_get_bind ?_
  refine (Op.reads_ofOption _ _).bind_atomic fun removed _ _ _ => ?_
  exact (Op.atomic_set _ _).bind_pure

/-- A label leads to a state or to a transition. -/
theorem atomic_activate [Solver σ] (label : String) (profile : Profile) :
    (activate label profile : Op σ Unit).Atomic x := by
  unfold activate
  split
  · exact atomic_moveTo _ profile
  · refine (Op.reads_require _ _).bind_atomic fun _ _ _ _ => ?_
    exact (atomic_force _ _ _).bind_pure

/-! ### What touches the store, the walk and the alternatives -/

/-- Writing to the store touches the store. -/
theorem local_writeStore {α : Type} (write : Store → Except StoreError α × Store) :
    (writeStore write : Op σ α).Local x := by
  intro s
  rw [run_writeStore]
  exact rfl

/-- Recording a route touches the store. -/
theorem local_recordRoute (id length : Nat) : (recordRoute id length : Op σ Unit).Local x := by
  refine Op.local_get_bind ?_
  exact (local_writeStore _).bind fun _ y => (Op.reads_pure _).local y

/-- Recording routes touches the store. -/
theorem local_recordRoutesTo (ids : List Nat) : (recordRoutesTo ids : Op σ Unit).Local x := by
  induction ids generalizing x with
  | nil => exact (Op.reads_pure _).local x
  | cons id rest ih =>
    refine Op.Local.bind (Op.local_get_bind ?_) fun _ _ => ih
    dsimp only
    split
    · exact local_recordRoute _ _
    · exact (Op.reads_pure _).local x

/-- Recording routes touches the store. -/
theorem local_recordRoutes (ids : List Nat) : (recordRoutes ids : Op σ Unit).Local x := by
  refine (local_recordRoutesTo ids).bind fun _ y => Op.local_get_bind ?_
  dsimp only
  split
  · exact (Op.reads_pure _).local y
  · exact local_recordRoute _ _

/-- Attaching a chain touches the store, the walk and the alternatives. -/
theorem local_attach (parent : Option Nat) (chain : List State) (keep : Walk → Walk)
    (turn : Alternatives → Except NoAlternative Alternatives) :
    (attach parent chain keep turn : Op σ Unit).Local x := by
  refine (local_writeStore _).bind fun ids y => Op.local_get_bind ?_
  refine (Op.reads_ofExcept _ _).bind_local fun stops => ?_
  refine Op.Local.bind (fun _ => rfl) fun _ y => Op.local_get_bind ?_
  refine (Op.reads_ofExcept _ _).bind_local fun alternatives => ?_
  exact Op.Local.bind (fun _ => rfl) fun _ _ => local_recordRoutes _

/-- An extension touches the store, the walk and the alternatives. -/
theorem local_extend (solution : Solution) (profile : Profile) :
    (extend solution profile : Op σ Unit).Local x := by
  refine (reads_chainOf profile solution).bind_local fun chain => ?_
  split
  · exact reads_current.bind_local fun anchor => local_attach _ _ _ _
  · exact (Op.reads_fail _).local x

/-- A step touches the store, the walk and the alternatives. -/
theorem local_step [Solver σ] (steps : Nat) (constraints : List String) (profile : Profile) :
    (step steps constraints profile : Op σ Unit).Local x := by
  refine reads_requireReady.bind_local fun _ => ?_
  refine (Op.reads_require _ _).bind_local fun _ => Op.local_get_bind ?_
  split
  · refine Op.local_get_bind <| (Op.reads_require _ _).bind_local fun _ => ?_
    exact (Op.reads_ofExcept _ _).bind_local fun walk => fun _ => rfl
  · refine (reads_solve _ _ _).bind_local fun solution => ?_
    exact (Op.reads_require _ _).bind_local fun _ => local_extend solution profile

/-- A reset touches the walk and the alternatives. -/
theorem local_reset [Solver σ] (profile : Profile) : (reset profile : Op σ Unit).Local x := by
  refine reads_requireReady.bind_local fun _ => Op.local_get_bind ?_
  split
  · exact fun _ => rfl
  · refine (Op.reads_ofOption _ _).bind_local fun model => ?_
    refine (reads_askInitial _ _).bind_local fun solution => ?_
    refine (Op.reads_require _ _).bind_local fun _ => ?_
    refine (reads_chainOf _ _).bind_local fun chain => ?_
    split
    · exact (Op.reads_fail _).local x
    · exact fun _ => rfl

/-- An alternative touches the store, the walk and the alternatives. -/
theorem local_alternate (reverse : Bool) (profile : Profile) :
    (alternate reverse profile : Op σ Unit).Local x := by
  refine reads_requireReady.bind_local fun _ => Op.local_get_bind ?_
  refine (Op.reads_ofExcept _ _).bind_local fun solution => ?_
  refine (reads_chainOf profile solution).bind_local fun chain => ?_
  split
  · exact (Op.reads_fail _).local x
  · exact local_attach _ _ _ _
  · refine Op.local_get_bind <| (Op.reads_ofOption _ _).bind_local fun anchor => ?_
    exact local_attach _ _ _ _

/-- Browsing touches what every alternative touches. -/
theorem local_seek (wanted : State) (profile : Profile) (turns : Nat) :
    (seek wanted profile turns : Op σ Unit).Local x := by
  induction turns generalizing x with
  | zero => exact (Op.reads_pure _).local x
  | succ turns ih =>
    refine Op.local_get_bind ?_
    split
    · exact (local_alternate false profile).bind fun _ _ => ih
    · exact (Op.reads_pure _).local x

/-- Going back touches the store, the walk and the alternatives, so all of it can be restored. -/
theorem local_retrace [Solver σ] (steps : Nat) (profile : Profile) :
    (retrace steps profile : Op σ Unit).Local x := by
  refine Op.local_get_bind <| (Op.reads_ofOption _ _).bind_local fun target => ?_
  refine Op.Local.bind (Op.local_get_bind ?_) fun _ y => Op.local_get_bind ?_
  · split
    · exact local_reset profile
    · exact Op.Local.bind (fun _ => rfl) fun _ _ => local_step _ _ profile
  · refine (local_seek _ profile _).bind fun _ z => ?_
    exact Op.Local.bind (fun _ => rfl) fun _ _ => local_recordRoutes _

/-- Going back changes nothing where it fails on the way. -/
theorem atomic_reverseStep [Solver σ] (steps : Nat) (profile : Profile) :
    (reverseStep steps profile : Op σ Unit).Atomic x := by
  refine reads_requireReady.bind_atomic fun _ _ _ _ => ?_
  refine (Op.reads_require _ _).bind_atomic fun _ _ _ _ => ?_
  exact (local_retrace steps profile).restoring_atomic

end Explore

namespace Session

variable {σ : Type}

/-- An operation that leaves everything where it fails does so in a session. -/
theorem run_eq_of_error {α : Type} {session : Session σ} {op : Profile → Op σ α} {e : SessionError}
    (hop : (op session.profile).Atomic session.exploration)
    (h : (session.run op).1 = .error e) :
    (session.run op).2.exploration = session.exploration :=
  hop session.solver e h

/-- A command that fails leaves the exploration exactly as it was: the store, the walk, the
alternatives, the model with its vocabulary, fields and signatures, the replay and the breakpoints,
whatever the solver answered. -/
theorem exec_error_unchanged [Solver σ] (session : Session σ) (command : Command)
    {e : SessionError} (h : (session.exec command).1 = .error e) :
    (session.exec command).2.exploration = session.exploration ∧
      (session.exec command).2.profile = session.profile ∧
      (session.exec command).2.diffMode = session.diffMode := by
  cases command with
  | loadModel text => exact ⟨run_eq_of_error (Explore.atomic_loadModel _ _).bind_pure h, rfl, rfl⟩
  | loadTrace trace => exact ⟨run_eq_of_error (Explore.atomic_loadTrace _ _).bind_pure h, rfl, rfl⟩
  | step steps constraints =>
    exact ⟨run_eq_of_error (Explore.atomic_step _ _ _).bind_pure h, rfl, rfl⟩
  | runUntil limit => exact ⟨run_eq_of_error (Explore.atomic_runUntil _ _).bind_pure h, rfl, rfl⟩
  | force transition limit =>
    exact ⟨run_eq_of_error (Explore.atomic_force _ _ _).bind_pure h, rfl, rfl⟩
  | alternate reverse =>
    exact ⟨run_eq_of_error (Explore.atomic_alternate _ _).bind_pure h, rfl, rfl⟩
  | reverseStep steps =>
    exact ⟨run_eq_of_error (Explore.atomic_reverseStep _ _).bind_pure h, rfl, rfl⟩
  | moveTo id => exact ⟨run_eq_of_error (Explore.atomic_moveTo _ _).bind_pure h, rfl, rfl⟩
  | reset => exact ⟨run_eq_of_error (Explore.atomic_reset _).bind_pure h, rfl, rfl⟩
  | activate label => exact ⟨run_eq_of_error (Explore.atomic_activate _ _).bind_pure h, rfl, rfl⟩
  | validate constraint =>
    exact ⟨run_eq_of_error ((Explore.reads_validate _ _).atomic _).bind_pure h, rfl, rfl⟩
  | addBreakpoint constraint =>
    exact ⟨run_eq_of_error (Explore.atomic_addBreakpoint _ _).bind_pure h, rfl, rfl⟩
  | removeBreakpoint index =>
    exact ⟨run_eq_of_error (Explore.atomic_removeBreakpoint _ _).bind_pure h, rfl, rfl⟩
  | clearBreakpoints => cases h
  | setVocabulary vocabulary => cases h
  | setDiffMode on => cases h

/-- A document with the given chains of lights. -/
def lights (chains : List (List String)) : Document where
  stateSig := "State"
  fields := [⟨"light", 1⟩]
  instances := chains.map fun chain =>
    .ofChain "State" [⟨"light", 1⟩] (chain.map fun light => .ofFields (.ofList [("light", [light])]))

/-- A model with predicates that ask for nothing. -/
def emptyModel : String :=
  "pred init[s: State] \x7b\x7d pred next[s, t: State] \x7b\x7d"

/-- A session that went from red to green and whose solver has forgotten about red. -/
def forgetful : Session Scripted :=
  execAll (.start ⟨[.answer (lights [["Red"]]), .answer (lights [["Red", "Green"]]),
      .answer (lights [["Amber"], ["Blue"]])]⟩ ⟨.default, .plain⟩)
    [.loadModel emptyModel, .step 1 []]

/-- Going back to red in vain stores another light on the way, and all of that is dropped again. -/
theorem exec_error_unchanged_forgetful :
    forgetful.exploration.store.size = 2 ∧
      (forgetful.exec (.reverseStep 1)).1 = .error (.exhausted .next) ∧
      (forgetful.exec (.reverseStep 1)).2.exploration = forgetful.exploration ∧
      (forgetful.exec (.reverseStep 1)).2.profile = forgetful.profile ∧
      (forgetful.exec (.reverseStep 1)).2.diffMode = forgetful.diffMode := by
  have hfails : (forgetful.exec (.reverseStep 1)).1 = .error (.exhausted .next) := by
    decide +kernel
  exact ⟨by decide +kernel, hfails, exec_error_unchanged forgetful (.reverseStep 1) hfails⟩

end Session

end StateExplorer
