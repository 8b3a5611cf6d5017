import StateExplorer.Proofs.Session.Atomicity
import StateExplorer.Proofs.Session.Replay
import StateExplorer.Proofs.Store.Appending

/-!
# The store is append-only

Whatever a solver answers, a command that does not load anything adds to the store and changes
nothing in it: where it fails the store is the old one, and where it succeeds chains were attached
and their routes recorded, which leaves the store settled again. A load that succeeds starts a new
settled store. So between two loads that succeed every node keeps its state, its fingerprint and
its route, and only gets further steps to numbers that came later.
-/

namespace StateExplorer

/-! ### Operations that add to the store -/

/-- Whether a settled store comes from another one by additions. -/
structure Store.Grown (old new : Store) : Prop where
  appended : old.Appended new
  settled : new.Settled

/-- Additions to additions are additions. -/
theorem Store.Grown.trans {a b c : Store} (hab : a.Grown b) (hbc : b.Grown c) : a.Grown c :=
  ⟨hab.appended.trans hbc.appended, hbc.settled⟩

/-- A settled store comes from itself. -/
theorem Store.Settled.grown {store : Store} (h : store.Settled) : store.Grown store :=
  ⟨.refl store, h⟩

/-- Attaching a chain adds to a settled store and settles it. -/
theorem Exploration.Attaches.grown {x y : Exploration} {parent : Option Nat} {chain : List State}
    {kept : Walk} {alternatives : Alternatives} (h : x.Attaches parent chain kept alternatives y)
    (hx : x.store.Settled) : x.store.Grown y.store := by
  obtain ⟨-, -, hstops⟩ := h
  rename_i shown
  have hids := (Store.of_stops_eq_ok hstops).1
  have hsettled : ((x.store.grow parent chain).recordTo (kept.extend shown).ids
      (List.range' (x.store.size + 1) chain.length)).Settled := by
    refine hx.grow_recordTo parent chain fun id hid => ?_
    rw [← hids] at hid
    have hne : shown ≠ [] := by
      rintro rfl
      cases hid
    rw [Walk.ids, Walk.extend_eq _ hne, List.map_append]
    exact List.mem_append_right _ hid
  have hrecorded : (x.attached parent chain kept alternatives shown).store =
      (x.store.grow parent chain).recordTo (kept.extend shown).ids
        (List.range' (x.store.size + 1) chain.length) :=
    hsettled.recordCursor_eq_self _
  rw [hrecorded]
  exact ⟨(Store.Appended.grow x.store parent chain).recordTo hx _ _, hsettled⟩

namespace Explore

variable {σ : Type} {x : Exploration} {old : Store}

/-- Attaching a chain adds to the store. -/
theorem grown_attach (h : old.Grown x.store) (parent : Option Nat) (chain : List State)
    (keep : Walk → Walk) (turn : Alternatives → Except NoAlternative Alternatives) :
    (attach parent chain keep turn : Op σ Unit).Ensures x (old.Grown ·.store) := by
  intro s u y t hrun
  obtain ⟨alternatives, -, hattaches, -⟩ := of_attach_ok hrun
  exact h.trans (hattaches.grown h.settled)

/-- Recording routes leaves a store that has them all. -/
theorem grown_recordRoutes (h : old.Grown x.store) (ids : List Nat) :
    (recordRoutes ids : Op σ Unit).Ensures x (old.Grown ·.store) := by
  have hroute {x : Exploration} (h : old.Grown x.store) (id length : Nat) :
      (recordRoute id length : Op σ Unit).Ensures x (old.Grown ·.store) := by
    refine Op.ensures_get_bind (Op.Ensures.bind_pure fun s a y t hrun => ?_)
    rw [run_writeStore] at hrun
    obtain ⟨-, rfl, -⟩ := by simpa only [Prod.mk.injEq] using hrun
    change old.Grown (x.store.recordRoute id (x.walk.ids.take length)).2
    rwa [h.settled.recordRoute_eq_self]
  have hroutes : (recordRoutesTo ids : Op σ Unit).Ensures x (old.Grown ·.store) := by
    induction ids generalizing x with
    | nil => exact (Op.reads_pure _).ensures h
    | cons id rest ih =>
      refine Op.Ensures.bind (P := (old.Grown ·.store)) (Op.ensures_get_bind ?_) fun _ y hy => ih hy
      dsimp only
      split
      · exact hroute h _ _
      · exact (Op.reads_pure _).ensures h
  refine hroutes.bind fun _ y hy => Op.ensures_get_bind ?_
  dsimp only
  split
  · exact (Op.reads_pure _).ensures hy
  · exact hroute hy _ _

/-- An extension adds to the store. -/
theorem grown_extend (h : old.Grown x.store) (solution : Solution) (profile : Profile) :
    (extend solution profile : Op σ Unit).Ensures x (old.Grown ·.store) := by
  refine (reads_chainOf profile solution).bind_ensures fun chain => ?_
  split
  · exact reads_current.bind_ensures fun anchor => grown_attach h _ _ _ _
  · exact Op.ensures_fail _

/-- A step moves a replay or adds to the store. -/
theorem grown_step [Solver σ] (h : old.Grown x.store) (steps : Nat) (constraints : List String)
    (profile : Profile) :
    (step steps constraints profile : Op σ Unit).Ensures x (old.Grown ·.store) := by
  refine reads_requireReady.bind_ensures fun _ => ?_
  refine (Op.reads_require _ _).bind_ensures fun _ => Op.ensures_get_bind ?_
  split
  · refine Op.ensures_get_bind <| (Op.reads_require _ _).bind_ensures fun _ => ?_
    exact (Op.reads_ofExcept _ _).bind_ensures fun walk => Op.ensures_set h
  · refine (reads_solve _ _ _).bind_ensures fun solution => ?_
    exact (Op.reads_require _ _).bind_ensures fun _ => grown_extend h solution profile

/-- A search adds to the store once, where it ends. -/
theorem grown_searchBounds [Solver σ] (h : old.Grown x.store) (goal : Goal) (missing : NoChain)
    (profile : Profile) (bound left : Nat) :
    (searchBounds goal missing profile bound left : Op σ Nat).Ensures x (old.Grown ·.store) := by
  induction left generalizing bound with
  | zero => exact Op.ensures_fail _
  | succ left ih =>
    refine (reads_solve _ _ _).bind_ensures fun solution => ?_
    split
    · exact (grown_extend h solution profile).bind_pure
    · exact ih (bound + 1)

/-- Moving on to a breakpoint is a search after some checks. -/
theorem grown_runUntil [Solver σ] (h : old.Grown x.store) (limit : Nat) (profile : Profile) :
    (runUntil limit profile : Op σ Nat).Ensures x (old.Grown ·.store) := by
  refine reads_requireReady.bind_ensures fun _ => Op.ensures_get_bind ?_
  refine (Op.reads_require _ _).bind_ensures fun _ => ?_
  refine (Op.reads_require _ _).bind_ensures fun _ => ?_
  refine (Op.reads_require _ _).bind_ensures fun _ => ?_
  exact grown_searchBounds h _ _ _ _ _

/-- Forcing a transition is a search after some checks. -/
theorem grown_force [Solver σ] (h : old.Grown x.store) (name : String) (limit : Nat)
    (profile : Profile) :
    (force name limit profile : Op σ Nat).Ensures x (old.Grown ·.store) := by
  refine reads_requireReady.bind_ensures fun _ => ?_
  refine (Op.reads_require _ _).bind_ensures fun _ => Op.ensures_get_bind ?_
  refine (Op.reads_require _ _).bind_ensures fun _ => ?_
  refine (Op.reads_require _ _).bind_ensures fun _ => ?_
  refine (Op.reads_ofOption _ _).bind_ensures fun transition => ?_
  exact grown_searchBounds h _ _ _ _ _

/-- An alternative adds to the store. -/
theorem grown_alternate (h : old.Grown x.store) (reverse : Bool) (profile : Profile) :
    (alternate reverse profile : Op σ Unit).Ensures x (old.Grown ·.store) := by
  refine reads_requireReady.bind_ensures fun _ => Op.ensures_get_bind ?_
  refine (Op.reads_ofExcept _ _).bind_ensures fun solution => ?_
  refine (reads_chainOf profile solution).bind_ensures fun chain => ?_
  split
  · exact Op.ensures_fail _
  · exact grown_attach h _ _ _ _
  · refine Op.ensures_get_bind <| (Op.reads_ofOption _ _).bind_ensures fun anchor => ?_
    exact grown_attach h _ _ _ _

/-- A reset leaves the store. -/
theorem grown_reset [Solver σ] (h : old.Grown x.store) (profile : Profile) :
    (reset profile : Op σ Unit).Ensures x (old.Grown ·.store) := by
  refine reads_requireReady.bind_ensures fun _ => Op.ensures_get_bind ?_
  split
  · exact Op.ensures_set h
  · refine (Op.reads_ofOption _ _).bind_ensures fun model => ?_
    refine (reads_askInitial _ _).bind_ensures fun solution => ?_
    refine (Op.reads_require _ _).bind_ensures fun _ => ?_
    refine (reads_chainOf _ _).bind_ensures fun chain => ?_
    split
    · exact Op.ensures_fail _
    · exact Op.ensures_update h

/-- Browsing adds what its turns add. -/
theorem grown_seek (h : old.Grown x.store) (wanted : State) (profile : Profile) (turns : Nat) :
    (seek wanted profile turns : Op σ Unit).Ensures x (old.Grown ·.store) := by
  induction turns generalizing x with
  | zero => exact (Op.reads_pure _).ensures h
  | succ turns ih =>
    refine Op.ensures_get_bind ?_
    split
    · exact (grown_alternate h false profile).bind fun _ y hy => ih hy
    · exact (Op.reads_pure _).ensures h

/-- Finding a state again adds what a step adds, if anything. -/
theorem grown_findAgain [Solver σ] (h : old.Grown x.store) (steps : Nat) (profile : Profile) :
    (findAgain steps profile : Op σ Unit).Ensures x (old.Grown ·.store) := by
  refine Op.ensures_get_bind ?_
  split
  · exact grown_reset h profile
  · refine Op.Ensures.bind (P := (old.Grown ·.store)) (Op.ensures_set h) fun _ y hy => ?_
    exact grown_step hy _ _ profile

/-- Settling on a state adds what browsing for it adds. -/
theorem grown_settle (h : old.Grown x.store) (target : Stop) (profile : Profile) :
    (settle target profile : Op σ Unit).Ensures x (old.Grown ·.store) := by
  refine Op.ensures_get_bind <| (grown_seek h target.state profile _).bind fun _ y hy => ?_
  refine Op.Ensures.bind (P := (old.Grown ·.store)) (Op.ensures_update hy) fun _ z hz => ?_
  exact grown_recordRoutes hz []

/-- Going back adds what finding the state anew and browsing for it adds. -/
theorem grown_reverseStep [Solver σ] (h : old.Grown x.store) (steps : Nat) (profile : Profile) :
    (reverseStep steps profile : Op σ Unit).Ensures x (old.Grown ·.store) := by
  refine reads_requireReady.bind_ensures fun _ => ?_
  refine (Op.reads_require _ _).bind_ensures fun _ => Op.Ensures.restoring ?_
  refine Op.ensures_get_bind <| (Op.reads_ofOption _ _).bind_ensures fun target => ?_
  have hfound : (findAgain steps profile : Op σ Unit).Ensures x (old.Grown ·.store) :=
    grown_findAgain h steps profile
  exact hfound.bind fun _ y hy => grown_settle hy target profile

/-- Going to a stored state leaves the store. -/
theorem grown_moveTo (h : old.Grown x.store) (id : Nat) (profile : Profile) :
    (moveTo id profile : Op σ Unit).Ensures x (old.Grown ·.store) := by
  refine reads_requireReady.bind_ensures fun _ => Op.ensures_get_bind ?_
  refine (Op.reads_ofExcept _ _).bind_ensures fun node => ?_
  split
  · refine Op.ensures_get_bind <| (Op.reads_require _ _).bind_ensures fun _ => ?_
    dsimp only
    split
    · exact Op.ensures_set h
    · exact (Op.reads_ofExcept _ _).bind_ensures fun walk => Op.ensures_set h
  · refine (Op.reads_require _ _).bind_ensures fun _ => ?_
    exact (Op.reads_ofExcept _ _).bind_ensures fun stops => Op.ensures_set h

/-- A label leads to a stored state or to a search. -/
theorem grown_activate [Solver σ] (h : old.Grown x.store) (label : String) (profile : Profile) :
    (activate label profile : Op σ Unit).Ensures x (old.Grown ·.store) := by
  unfold activate
  split
  · exact grown_moveTo h _ profile
  · refine (Op.reads_require _ _).bind_ensures fun _ => ?_
    exact (grown_force h _ _ _).bind_pure

/-- Checking a constraint leaves the store. -/
theorem grown_validate [Solver σ] (h : old.Grown x.store) (constraint : String)
    (profile : Profile) :
    (validate constraint profile : Op σ Unit).Ensures x (old.Grown ·.store) :=
  (reads_validate constraint profile).ensures (P := (old.Grown ·.store)) h

/-- Adding a breakpoint leaves the store. -/
theorem grown_addBreakpoint [Solver σ] (h : old.Grown x.store) (constraint : String)
    (profile : Profile) :
    (addBreakpoint constraint profile : Op σ Nat).Ensures x (old.Grown ·.store) := by
  refine (reads_validate constraint profile).bind_ensures fun _ => Op.ensures_get_bind ?_
  exact Op.Ensures.bind_pure (Op.ensures_set (P := (old.Grown ·.store)) h)

/-- Removing a breakpoint leaves the store. -/
theorem grown_removeBreakpoint (h : old.Grown x.store) (index : Nat) (profile : Profile) :
    (removeBreakpoint index profile : Op σ String).Ensures x (old.Grown ·.store) := by
  refine Op.ensures_get_bind <| (Op.reads_ofOption _ _).bind_ensures fun removed => ?_
  exact Op.Ensures.bind_pure (Op.ensures_set (P := (old.Grown ·.store)) h)

/-- A model that is loaded starts a settled store. -/
theorem settled_loadModel [Solver σ] (text : String) (profile : Profile) :
    (loadModel text profile : Op σ Unit).Ensures x (·.store.Settled) := by
  refine (Op.reads_ofExcept _ _).bind_ensures fun own => ?_
  refine (Op.reads_ofExcept _ _).bind_ensures fun model => ?_
  refine (reads_askInitial _ _).bind_ensures fun solution => ?_
  refine (Op.reads_require _ _).bind_ensures fun _ => ?_
  refine (Op.reads_ofExcept _ _).bind_ensures fun decoded => ?_
  refine (Op.reads_ofExcept _ _).bind_ensures fun scopes => ?_
  intro s u y t hrun
  obtain ⟨stored, hstored, hrun⟩ := Op.of_ofExcept_bind_ok hrun
  obtain ⟨stops, -, hrun⟩ := Op.of_ofExcept_bind_ok hrun
  obtain ⟨-, rfl⟩ := Store.of_storeOf_eq_ok hstored
  exact Op.ensures_update (P := (·.store.Settled)) (Store.settled_rooted _ _) s u y t hrun

/-- A trace that is loaded starts a settled store. -/
theorem settled_loadTrace (trace : Document) (profile : Profile) :
    (loadTrace trace profile : Op σ Unit).Ensures x (·.store.Settled) := by
  intro s u y t hrun
  obtain ⟨hloaded, -⟩ := traceLoaded_of_ok hrun
  cases hloaded
  exact Store.settled_rooted _ _

end Explore

namespace Session

variable {σ : Type}

/-- What an operation ensures holds in a session where it succeeded. -/
theorem of_run_ok {α : Type} {session : Session σ} {op : Profile → Op σ α} {a : α}
    {P : Exploration → Prop} (hop : (op session.profile).Ensures session.exploration P)
    (h : (session.run op).1 = .ok a) : P (session.run op).2.exploration := by
  rw [run] at h ⊢
  rcases hrun : (op session.profile).run session.exploration session.solver with ⟨result, y, t⟩
  rw [hrun] at h
  obtain rfl : result = .ok a := h
  exact hop _ _ _ _ hrun

variable [Solver σ]

/-- A command adds to a settled store, unless it loads a model or a trace. -/
theorem exec_grown {session : Session σ} (h : session.exploration.store.Settled)
    (command : Command) (hloads : command.loads = true → (session.exec command).1.isOk = false) :
    session.exploration.store.Grown (session.exec command).2.exploration.store := by
  cases hresult : (session.exec command).1 with
  | error e =>
    rw [(exec_error_unchanged session command hresult).1]
    exact h.grown
  | ok reply =>
    cases command with
    | loadModel text => simp [hresult, Command.loads, Except.isOk, Except.toBool] at hloads
    | loadTrace trace => simp [hresult, Command.loads, Except.isOk, Except.toBool] at hloads
    | step steps constraints =>
      exact of_run_ok (Explore.grown_step h.grown _ _ _).bind_pure hresult
    | runUntil limit => exact of_run_ok (Explore.grown_runUntil h.grown _ _).bind_pure hresult
    | force transition limit =>
      exact of_run_ok (Explore.grown_force h.grown _ _ _).bind_pure hresult
    | alternate reverse =>
      exact of_run_ok (Explore.grown_alternate h.grown _ _).bind_pure hresult
    | reverseStep steps =>
      exact of_run_ok (Explore.grown_reverseStep h.grown _ _).bind_pure hresult
    | moveTo id => exact of_run_ok (Explore.grown_moveTo h.grown _ _).bind_pure hresult
    | reset => exact of_run_ok (Explore.grown_reset h.grown _).bind_pure hresult
    | activate label => exact of_run_ok (Explore.grown_activate h.grown _ _).bind_pure hresult
    | validate constraint => exact of_run_ok (Explore.grown_validate h.grown _ _).bind_pure hresult
    | addBreakpoint constraint =>
      exact of_run_ok (Explore.grown_addBreakpoint h.grown _ _).bind_pure hresult
    | removeBreakpoint index =>
      exact of_run_ok (Explore.grown_removeBreakpoint h.grown _ _).bind_pure hresult
    | clearBreakpoints => exact h.grown
    | setVocabulary vocabulary => exact h.grown
    | setDiffMode on => exact h.grown

/-- Every command leaves a settled store. -/
theorem exec_settled {session : Session σ} (h : session.exploration.store.Settled)
    (command : Command) : (session.exec command).2.exploration.store.Settled := by
  by_cases hloads : command.loads = true → (session.exec command).1.isOk = false
  · exact (exec_grown h command hloads).settled
  · obtain ⟨hload, hok⟩ := Classical.not_imp.1 hloads
    obtain ⟨reply, hresult⟩ : ∃ reply, (session.exec command).1 = .ok reply := by
      cases hresult : (session.exec command).1 with
      | ok reply => exact ⟨reply, rfl⟩
      | error e => simp [hresult, Except.isOk, Except.toBool] at hok
    cases command with
    | loadModel text => exact of_run_ok (Explore.settled_loadModel _ _).bind_pure hresult
    | loadTrace trace => exact of_run_ok (Explore.settled_loadTrace _ _).bind_pure hresult
    | _ => cases hload

/-- A run without commands leaves a session. -/
theorem execAll_nil (session : Session σ) : session.execAll [] = session := rfl

/-- Every run leaves a settled store. -/
theorem execAll_settled {session : Session σ} (h : session.exploration.store.Settled)
    (commands : List Command) : (session.execAll commands).exploration.store.Settled := by
  induction commands generalizing session with
  | nil => exact h
  | cons command rest ih => exact ih (exec_settled h command)

/-- The store is append-only: from any session that can be reached, whatever its solver answers, and
over any run in which no model and no trace is loaded with success, the store after more commands
comes from the store after fewer of them by additions. Every node is there as it was, but for steps
to numbers that came in between, and the size never decreases. -/
theorem execAll_appends (solver : σ) (profile : Profile) (before run : List Command)
    (hloads : ∀ i (hi : i < run.length), run[i].loads = true →
      (((execAll (.start solver profile) before).execAll (run.take i)).exec run[i]).1.isOk = false)
    {i j : Nat} (hij : i ≤ j) :
    ((execAll (.start solver profile) before).execAll (run.take i)).exploration.store.Appended
      ((execAll (.start solver profile) before).execAll (run.take j)).exploration.store := by
  have hstart : (execAll (.start solver profile) before).exploration.store.Settled :=
    execAll_settled (Store.settled_empty none) before
  generalize execAll (.start solver profile) before = session at hloads hstart
  induction j, hij using Nat.le_induction with
  | base => exact .refl _
  | succ j _ ih =>
    refine ih.trans ?_
    by_cases hj : j < run.length
    · rw [← List.take_append_getElem hj, execAll, execAll, List.foldl_append]
      exact (exec_grown (execAll_settled hstart _) run[j] (hloads j hj)).appended
    · rw [List.take_of_length_le (by omega), List.take_of_length_le (by omega)]
      exact .refl _

/-- A solver that finds red, then green after it, then amber and red again, and blue after that. -/
def colours : Scripted :=
  ⟨[.answer (lights [["Red"]]), .answer (lights [["Red", "Green"]]),
    .answer (lights [["Amber"], ["Red"]]), .answer (lights [["Red", "Blue"]])]⟩

/-- Going back from green to red and on to blue, with a model and a trace that cannot be loaded in
between, keeps the two states that were stored and adds two others. -/
theorem execAll_appends_colours :
    let before := [.loadModel emptyModel, .step 1 []]
    let run := [.reverseStep 1, .loadModel "", .loadTrace (lights []), .step 1 []]
    (∀ i (hi : i < run.length), run[i].loads = true →
      (((execAll (.start colours ⟨.default, .plain⟩) before).execAll
        (run.take i)).exec run[i]).1.isOk = false) ∧
    (execAll (.start colours ⟨.default, .plain⟩) before).exploration.store.size = 2 ∧
    ((execAll (.start colours ⟨.default, .plain⟩) before).execAll run).exploration.store.size = 4 ∧
    (execAll (.start colours ⟨.default, .plain⟩) before).exploration.store.Appended
      ((execAll (.start colours ⟨.default, .plain⟩) before).execAll run).exploration.store := by
  intro before run
  have hloads : ∀ i (hi : i < run.length), run[i].loads = true →
      (((execAll (.start colours ⟨.default, .plain⟩) before).execAll
        (run.take i)).exec run[i]).1.isOk = false := by
    decide +kernel
  refine ⟨hloads, by decide +kernel, by decide +kernel, ?_⟩
  have happended := execAll_appends colours ⟨.default, .plain⟩ before run hloads
    (Nat.zero_le run.length)
  rwa [List.take_length, List.take_zero, execAll_nil] at happended

end Session

end StateExplorer
