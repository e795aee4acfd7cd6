import Mathlib.Data.List.Pairwise
import OrchestrationGraph.Project.Root
import OrchestrationGraph.Project.Runtime
import OrchestrationGraph.Proofs.Project.Step

/-!
# No temporary folder is forgotten

After any sequence of operations the recorded folders are those that were recorded and not dropped
since, in the order in which they were first recorded (`Tracked.stands`). A folder that was to be
made and is there stays on record until it is gone (`Tracked.kept`), no matter which steps failed.
A clean-up counts what it removes and keeps what it could not remove (`cleansUp`).
-/

namespace OrchestrationGraph.Temporary

variable {σ : Type} {p q r : String}

/-! ### Paths that count as the same -/

theorem same_iff : Path.same p q = true ↔ Path.components p = Path.components q := by
  unfold Path.same
  exact beq_iff_eq

theorem same_comm (p q : String) : Path.same p q = Path.same q p := by
  rw [Bool.eq_iff_iff, same_iff, same_iff, eq_comm]

theorem same_congr (same : Path.same p q = true) (r : String) : Path.same p r = Path.same q r := by
  rw [Bool.eq_iff_iff, same_iff, same_iff, same_iff.mp same]

/-! ### What stands on record -/

/-- An entry in the history of the record. -/
inductive Mark where
  | recorded (path : String)
  | dropped (path : String)

def Mark.drops (path : String) : Mark → Bool
  | recorded _ => false
  | dropped other => Path.same path other

/-- The paths that stand, in the order of the marks that they owe it to: each stands where it was
recorded for the first time since it was last dropped. -/
def standing : List Mark → List String
  | [] => []
  | .dropped _ :: later => standing later
  | .recorded path :: later =>
    if later.any (Mark.drops path) then standing later
    else path :: (standing later).filter fun other => !Path.same path other

theorem any_same_filter (differ : Path.same p q = false) (l : List String) :
    (l.filter fun r => !Path.same q r).any (Path.same p) = l.any (Path.same p) := by
  rw [List.any_filter]
  congr 1
  funext r
  cases same : Path.same p r with
  | false => rw [Bool.and_false]
  | true =>
    have other : Path.same q r = false := by
      rw [same_comm, ← same_congr same, differ]
    rw [other, Bool.not_false, Bool.and_true]

theorem standing_recorded (marks : List Mark) (p : String) :
    standing (marks ++ [.recorded p]) = recorded (standing marks) p := by
  induction marks with
  | nil => rfl
  | cons mark later ih =>
    cases mark with
    | dropped => exact ih
    | recorded q =>
      have drops : (later ++ [Mark.recorded p]).any (Mark.drops q) = later.any (Mark.drops q) := by
        simp [Mark.drops]
      simp only [List.cons_append, standing, drops, ih]
      split
      · rfl
      · unfold recorded
        cases same : Path.same p q with
        | true =>
          have out : [p].filter (fun r => !Path.same q r) = [] := by simp [same_comm q p, same]
          rw [List.any_cons, same, Bool.true_or, if_pos rfl]
          split
          · rfl
          · rw [List.filter_append, out, List.append_nil]
        | false =>
          have stays : [p].filter (fun r => !Path.same q r) = [p] := by simp [same_comm q p, same]
          rw [List.any_cons, same, Bool.false_or, any_same_filter same]
          split
          · rfl
          · rw [List.filter_append, stays, List.cons_append]

theorem standing_dropped (marks : List Mark) (p : String) :
    standing (marks ++ [.dropped p]) = (standing marks).filter fun q => !Path.same p q := by
  induction marks with
  | nil => rfl
  | cons mark later ih =>
    cases mark with
    | dropped => exact ih
    | recorded q =>
      have drops : (later ++ [Mark.dropped p]).any (Mark.drops q) =
          (later.any (Mark.drops q) || Path.same q p) := by
        simp [Mark.drops]
      simp only [List.cons_append, standing, drops, ih]
      cases later.any (Mark.drops q) with
      | true => rfl
      | false =>
        cases same : Path.same q p with
        | true =>
          have alike : ∀ r, Path.same q r = Path.same p r := same_congr same
          simp [same_comm p q, same, alike]
        | false =>
          have kept : (!Path.same p q) = true := by rw [same_comm, same, Bool.not_false]
          simp [kept, List.filter_filter, Bool.and_comm]

theorem standing_distinct (marks : List Mark) :
    (standing marks).Pairwise fun p q => Path.same p q = false := by
  induction marks with
  | nil => exact .nil
  | cons mark later ih =>
    cases mark with
    | dropped => exact ih
    | recorded path =>
      unfold standing
      split
      · exact ih
      · refine List.pairwise_cons.mpr ⟨?_, ih.filter _⟩
        intro other here
        simpa using (List.mem_filter.mp here).2

/-! ### Clean-ups -/

inductive Fate where
  | missing
  | removed
  | stuck
  deriving DecidableEq

def Fate.ofRemoval : Except FileError Unit → Fate
  | .ok _ => removed
  | .error _ => stuck

/-- What becomes of a folder that is to be removed, and the state of the host after it. -/
def removal (c : Context σ) (path : String) (state : σ) : Fate × σ :=
  if c.host.hasEntry path state then (c.host.removeFolder path state).map .ofRemoval id
  else (.missing, state)

/-- What becomes of folders that are to be removed one after the other. -/
def removals (c : Context σ) : List String → σ → List (String × Fate) × σ
  | [], state => ([], state)
  | path :: paths, state =>
    let turn := removal c path state
    let rest := removals c paths turn.2
    ((path, turn.1) :: rest.1, rest.2)

def removedIn (fates : List (String × Fate)) : Nat := fates.countP fun f => f.2 = .removed

def stuckIn (fates : List (String × Fate)) : List String :=
  (fates.filter fun f => f.2 = .stuck).map (·.1)

def droppedIn (fates : List (String × Fate)) : List String :=
  (fates.filter fun f => f.2 ≠ .stuck).map (·.1)

theorem map_fst_removals (c : Context σ) (paths : List String) (state : σ) :
    (removals c paths state).1.map (·.1) = paths := by
  induction paths generalizing state with
  | nil => rfl
  | cons path paths ih => exact congrArg (path :: ·) (ih _)

/-! One turn of a clean-up for each fate of the folder. -/

section

variable {c : Context σ} {path : String} {s : Session σ} (paths : List String)

theorem removeEach_missing (absent : c.host.hasEntry path s.state = false) :
    (c.removeEach (path :: paths)).run s = (c.removeEach paths).run s := by
  rw [Context.removeEach, Step.run_bind, run_ask, absent]
  rfl

theorem removeEach_removed (there : c.host.hasEntry path s.state = true)
    (removes : (c.host.removeFolder path s.state).1 = .ok ()) :
    (c.removeEach (path :: paths)).run s =
      let rest := (c.removeEach paths).run
        ((s.done (c.host.removeFolder path)).noted (.temporaryRemoved path))
      ((rest.1.1 + 1, rest.1.2), rest.2) := by
  rw [Context.removeEach, Step.run_bind, run_ask, there, if_pos rfl, Step.run_bind, run_perform,
    removes]
  rfl

theorem removeEach_stuck (there : c.host.hasEntry path s.state = true) {e : FileError}
    (refuses : (c.host.removeFolder path s.state).1 = .error e) :
    (c.removeEach (path :: paths)).run s =
      let rest := (c.removeEach paths).run
        ((s.done (c.host.removeFolder path)).noted (.temporaryStuck path e.message))
      ((rest.1.1, path :: rest.1.2), rest.2) := by
  rw [Context.removeEach, Step.run_bind, run_ask, there, if_pos rfl, Step.run_bind, run_perform,
    refuses]
  rfl

end

theorem removeEach_removals (c : Context σ) (paths : List String) (s : Session σ) :
    ((c.removeEach paths).run s).1 =
        (removedIn (removals c paths s.state).1, stuckIn (removals c paths s.state).1) ∧
      ((c.removeEach paths).run s).2.state = (removals c paths s.state).2 := by
  induction paths generalizing s with
  | nil => exact ⟨rfl, rfl⟩
  | cons path paths ih =>
    cases there : c.host.hasEntry path s.state with
    | false =>
      have fate : removal c path s.state = (.missing, s.state) := by simp [removal, there]
      obtain ⟨told, ends⟩ := ih s
      rw [removeEach_missing paths there, told, ends]
      simp [removals, fate, removedIn, stuckIn]
    | true =>
      have fate : removal c path s.state =
          (.ofRemoval (c.host.removeFolder path s.state).1,
            (s.done (c.host.removeFolder path)).state) := by
        rw [removal, if_pos there]
        rfl
      cases result : (c.host.removeFolder path s.state).1 with
      | ok u =>
        have removed := removeEach_removed paths there result
        obtain ⟨told, ends⟩ :=
          ih ((s.done (c.host.removeFolder path)).noted (.temporaryRemoved path))
        rw [result] at fate
        simp only [told] at removed
        simp [removals, fate, removed, ends, removedIn, stuckIn, Fate.ofRemoval]
      | error e =>
        have kept := removeEach_stuck paths there result
        obtain ⟨told, ends⟩ :=
          ih ((s.done (c.host.removeFolder path)).noted (.temporaryStuck path e.message))
        rw [result] at fate
        simp only [told] at kept
        simp [removals, fate, kept, ends, removedIn, stuckIn, Fate.ofRemoval]

/-- A clean-up tells how many of the recorded folders were there and were removed, and keeps those
that could not be removed, in their order, and no others. -/
structure CleansUp (c : Context σ) (s : Session σ) : Prop where
  faced : (removals c s.temporary s.state).1.map (·.1) = s.temporary
  removed : (c.cleanUp.run s).1 = removedIn (removals c s.temporary s.state).1
  left : (c.cleanUp.run s).2.temporary = stuckIn (removals c s.temporary s.state).1

theorem cleansUp (c : Context σ) (s : Session σ) : CleansUp c s := by
  obtain ⟨told, -⟩ := removeEach_removals c s.temporary s
  exact ⟨map_fst_removals c s.temporary s.state, congrArg Prod.fst told, congrArg Prod.snd told⟩

theorem state_cleanUp (c : Context σ) (s : Session σ) :
    (c.cleanUp.run s).2.state = (removals c s.temporary s.state).2 :=
  (removeEach_removals c s.temporary s).2

theorem standing_droppedAll (marks : List Mark) (paths : List String) :
    standing (marks ++ paths.map .dropped) =
      (standing marks).filter fun q => !paths.any fun p => Path.same p q := by
  induction paths generalizing marks with
  | nil => simp [List.filter_eq_self.mpr]
  | cons p paths ih =>
    have split : marks ++ (p :: paths).map .dropped = marks ++ [.dropped p] ++ paths.map .dropped := by
      simp
    rw [split, ih, standing_dropped, List.filter_filter]
    congr 1
    funext q
    rw [List.any_cons, Bool.not_or, Bool.and_comm]

/-- Dropping what is missing or removed leaves what is stuck. -/
theorem filter_droppedIn {fates : List (String × Fate)}
    (distinct : (fates.map (·.1)).Pairwise fun p q => Path.same p q = false) :
    ((fates.map (·.1)).filter fun q => !(droppedIn fates).any fun p => Path.same p q) =
      stuckIn fates := by
  have differ : ∀ f ∈ fates, ∀ f' ∈ fates, f ≠ f' → Path.same f.1 f'.1 = false := by
    have : Std.Symm fun f f' : String × Fate => Path.same f.1 f'.1 = false :=
      ⟨fun f f' differ => (same_comm f'.1 f.1).trans differ⟩
    exact fun f here f' there => (List.pairwise_map.mp distinct).forall here there
  rw [stuckIn, List.filter_map]
  congr 1
  refine List.filter_congr fun f here => ?_
  rw [Bool.eq_iff_iff]
  simp only [Function.comp_apply, Bool.not_eq_true', List.any_eq_false, decide_eq_true_iff, droppedIn,
    List.mem_map, List.mem_filter, forall_exists_index, and_imp, decide_not, Bool.not_eq_true,
    decide_eq_false_iff_not]
  constructor
  · intro kept
    refine Decidable.byContradiction fun notStuck => ?_
    have own : Path.same f.1 f.1 = false := kept f.1 f here notStuck rfl
    exact absurd (same_iff.mpr rfl) (Bool.eq_false_iff.mp own)
  · rintro stuck _ f' there notStuck rfl
    refine differ f' there f here ?_
    rintro rfl
    exact notStuck stuck

/-! ### Operations -/

/-- What may happen to the record and to the host. -/
inductive Operation (σ : Type) where
  | create (title : String)
  | record (path : String)
  | cleanUp
  | clone (url : String)
  | publish (project : String)
  /-- Anything that is done to the host without the record. -/
  | elsewhere (deed : σ → σ)

/-- The folder that is made next under a title. -/
def folder (c : Context σ) (title : String) (s : Session σ) : String :=
  Path.join c.settings.temporaryFolder (title ++ (c.host.freshName s.state).1)

namespace Operation

def after (c : Context σ) (s : Session σ) : Operation σ → Session σ
  | create title => ((c.createTemporary title).run.run s).2
  | record path => ((recordTemporary path : Step σ Unit).run s).2
  | cleanUp => (c.cleanUp.run s).2
  | clone url => ((c.clone url).run.run s).2
  | publish project => ((c.publish project).run.run s).2
  | elsewhere deed => { s with state := deed s.state }

/-- The folder that an operation makes or tries to make. -/
def created? (c : Context σ) (s : Session σ) : Operation σ → Option String
  | create title => some (folder c title s)
  | clone _ => some (folder c "funcgraph-clone-" s)
  | publish _ => some (folder c "funcgraph-publish-" s)
  | record _ | cleanUp | elsewhere _ => none

def marks (c : Context σ) (s : Session σ) : Operation σ → List Mark
  | record path => [.recorded path]
  | cleanUp => (droppedIn (removals c s.temporary s.state).1).map .dropped
  | op => (op.created? c s).toList.map .recorded

end Operation

/-- A session with what happened to the record, and the folders that were made and are still there:
those that were there after each operation since the one that made them, whether it failed or not. -/
structure History (σ : Type) where
  session : Session σ
  marks : List Mark := []
  alive : List String := []

def History.next (c : Context σ) (h : History σ) (op : Operation σ) : History σ where
  session := op.after c h.session
  marks := h.marks ++ op.marks c h.session
  alive := (h.alive ++ (op.created? c h.session).toList).filter fun p =>
    c.host.hasFolder p (op.after c h.session).state

/-- The history of a record that is empty at first. -/
def history (c : Context σ) (start : σ) (ops : List (Operation σ)) : History σ :=
  ops.foldl (History.next c) { session := { state := start } }

theorem temporary_createTemporary (c : Context σ) (title : String) (s : Session σ) :
    ((c.createTemporary title).run.run s).2.temporary = recorded s.temporary (folder c title s) := by
  unfold Context.createTemporary
  rw [run_perform_bind, run_recordTemporary_bind]
  refine Moves.bindAction (R := SameRecord) (.performAction _) (fun made => ?_) _
  split
  · exact .throw _
  · exact .bindAction (.noteAction _) fun _ => .pureAction _

theorem temporary_clone (c : Context σ) (url : String) (s : Session σ) :
    ((c.clone url).run.run s).2.temporary = recorded s.temporary (folder c "funcgraph-clone-" s) := by
  rw [← temporary_createTemporary]
  exact clone_after (R := SameRecord) c url (fun _ _ => rfl) s

theorem temporary_publish (c : Context σ) (project : String) (s : Session σ) :
    ((c.publish project).run.run s).2.temporary =
      recorded s.temporary (folder c "funcgraph-publish-" s) := by
  rw [← temporary_createTemporary]
  exact publish_after (R := SameRecord) c project (fun _ _ => rfl) s

/-! ### What holds after every operation -/

/-- The existence test sees folders and takes paths as what they mean, and removals remove. -/
structure Truthful (host : Host σ) : Prop where
  seen : ∀ p state, host.hasFolder p state = true → host.hasEntry p state = true
  same : ∀ p q state, Path.same p q = true → host.hasFolder p state = host.hasFolder q state
  gone : ∀ p state, (host.removeFolder p state).1 = .ok () →
    host.hasFolder p (host.removeFolder p state).2 = false
  noNew : ∀ p q state, host.hasFolder q (host.removeFolder p state).2 = true →
    host.hasFolder q state = true

structure Tracked (h : History σ) : Prop where
  distinct : h.session.temporary.Pairwise fun p q => Path.same p q = false
  stands : h.session.temporary = standing h.marks
  kept : ∀ p ∈ h.alive, ∃ q ∈ h.session.temporary, Path.same p q = true

variable {c : Context σ} {h : History σ}

theorem hasFolder_of_removals (truthful : Truthful c.host) {paths : List String} {state : σ}
    (there : c.host.hasFolder p (removals c paths state).2 = true) :
    c.host.hasFolder p state = true := by
  induction paths generalizing state with
  | nil => exact there
  | cons path paths ih =>
    have before := ih there
    unfold removal at before
    split at before
    · exact truthful.noNew path p state before
    · exact before

/-- A folder that is to be removed and is there afterwards could not be removed. -/
theorem stuck_of_hasFolder (truthful : Truthful c.host) {paths : List String} {state : σ}
    (here : q ∈ paths) (same : Path.same p q = true)
    (there : c.host.hasFolder p (removals c paths state).2 = true) :
    ∃ r ∈ stuckIn (removals c paths state).1, Path.same p r = true := by
  induction paths generalizing state with
  | nil => exact absurd here List.not_mem_nil
  | cons path paths ih =>
    have later (found : ∃ r ∈ stuckIn (removals c paths (removal c path state).2).1,
        Path.same p r = true) :
        ∃ r ∈ stuckIn (removals c (path :: paths) state).1, Path.same p r = true := by
      obtain ⟨r, stuck, same⟩ := found
      refine ⟨r, ?_, same⟩
      obtain ⟨f, fate, rfl⟩ := List.mem_map.mp stuck
      obtain ⟨inside, isStuck⟩ := List.mem_filter.mp fate
      exact List.mem_map.mpr ⟨f, List.mem_filter.mpr ⟨List.mem_cons_of_mem _ inside, isStuck⟩, rfl⟩
    obtain rfl | here := List.mem_cons.mp here
    · -- The folder is there after its turn, so it was neither missing nor removed.
      have after : c.host.hasFolder q (removal c q state).2 = true := by
        rw [← truthful.same p q _ same]
        exact hasFolder_of_removals truthful there
      refine ⟨q, ?_, same⟩
      have fate : (removal c q state).1 = .stuck := by
        unfold removal at after ⊢
        split at after
        · rename_i entry
          rw [if_pos entry]
          cases result : (c.host.removeFolder q state).1 with
          | ok u => exact absurd after (Bool.eq_false_iff.mp (truthful.gone q state result))
          | error e => simp [Fate.ofRemoval, result]
        · rename_i absent
          exact absurd (truthful.seen q state after) absent
      exact List.mem_map.mpr ⟨(q, _), List.mem_filter.mpr ⟨List.mem_cons_self, by simp [fate]⟩, rfl⟩
    · exact later (ih here there)

theorem mem_recorded {l : List String} (here : ∃ q ∈ l, Path.same p q = true) (path : String) :
    ∃ q ∈ recorded l path, Path.same p q = true := by
  obtain ⟨q, here, same⟩ := here
  refine ⟨q, ?_, same⟩
  unfold recorded
  split
  · exact here
  · exact List.mem_append_left _ here

theorem exists_same_recorded (l : List String) (path : String) :
    ∃ q ∈ recorded l path, Path.same path q = true := by
  unfold recorded
  split
  · rename_i taken
    exact List.any_eq_true.mp taken
  · exact ⟨path, List.mem_append_right _ (List.mem_singleton.mpr rfl), same_iff.mpr rfl⟩

/-- An operation that records one path, which may be that of a folder it makes. -/
theorem Tracked.record (tracked : Tracked h) {op : Operation σ} {path : String}
    (records : (op.after c h.session).temporary = recorded h.session.temporary path)
    (marks : op.marks c h.session = [.recorded path])
    (created : ∀ p ∈ op.created? c h.session, p = path) : Tracked (h.next c op) := by
  have stands : (h.next c op).session.temporary = standing (h.next c op).marks := by
    show (op.after c h.session).temporary = standing (h.marks ++ op.marks c h.session)
    rw [records, marks, standing_recorded, tracked.stands]
  refine ⟨stands ▸ standing_distinct _, stands, ?_⟩
  intro p alive
  show ∃ q ∈ (op.after c h.session).temporary, Path.same p q = true
  rw [records]
  obtain old | new := List.mem_append.mp (List.mem_filter.mp alive).1
  · exact mem_recorded (tracked.kept p old) path
  · obtain rfl := created p (Option.mem_toList.mp new)
    exact exists_same_recorded _ p

theorem Tracked.next (truthful : Truthful c.host) (tracked : Tracked h) (op : Operation σ) :
    Tracked (h.next c op) := by
  cases op with
  | create title =>
    exact tracked.record (temporary_createTemporary c title h.session) rfl
      (by simp [Operation.created?])
  | record path => exact tracked.record rfl rfl (by simp [Operation.created?])
  | clone url =>
    exact tracked.record (temporary_clone c url h.session) rfl (by simp [Operation.created?])
  | publish project =>
    exact tracked.record (temporary_publish c project h.session) rfl (by simp [Operation.created?])
  | elsewhere deed =>
    have stands : (h.next c (.elsewhere deed)).session.temporary =
        standing (h.next c (.elsewhere deed)).marks := by
      show h.session.temporary = standing (h.marks ++ [])
      rw [List.append_nil, tracked.stands]
    refine ⟨tracked.distinct, stands, ?_⟩
    intro p alive
    obtain old | new := List.mem_append.mp (List.mem_filter.mp alive).1
    · exact tracked.kept p old
    · exact absurd new List.not_mem_nil
  | cleanUp =>
    have ⟨faced, _, left⟩ := cleansUp c h.session
    have stands : (h.next c .cleanUp).session.temporary = standing (h.next c .cleanUp).marks := by
      show (c.cleanUp.run h.session).2.temporary = standing (h.marks ++ (droppedIn _).map .dropped)
      have distinct := tracked.distinct
      rw [← faced] at distinct
      rw [left, standing_droppedAll, ← tracked.stands, ← filter_droppedIn distinct, faced]
    refine ⟨stands ▸ standing_distinct _, stands, ?_⟩
    intro p alive
    obtain ⟨was, isThere⟩ := List.mem_filter.mp alive
    obtain old | new := List.mem_append.mp was
    · obtain ⟨q, here, same⟩ := tracked.kept p old
      show ∃ q ∈ (c.cleanUp.run h.session).2.temporary, Path.same p q = true
      rw [left]
      refine stuck_of_hasFolder truthful here same ?_
      rw [← state_cleanUp]
      exact isThere
    · exact absurd new List.not_mem_nil

theorem tracked_next_all (truthful : Truthful c.host) (tracked : Tracked h)
    (ops : List (Operation σ)) : Tracked (ops.foldl (History.next c) h) := by
  induction ops generalizing h with
  | nil => exact tracked
  | cons op ops ih => exact ih (tracked.next truthful op)

/-- On every record that was empty at first, whatever was done to it and to the host, the folders
stand in order, those that were made and are still there are among them, and a clean-up keeps exactly
those that it cannot remove. -/
theorem tracked_history (truthful : Truthful c.host) (start : σ) (ops : List (Operation σ)) :
    Tracked (history c start ops) ∧ CleansUp c (history c start ops).session := by
  have empty : Tracked { session := { state := start } : History σ } :=
    ⟨.nil, rfl, fun _ alive => absurd alive List.not_mem_nil⟩
  exact ⟨tracked_next_all truthful empty ops, cleansUp c _⟩

/-! A shelf of folders, on which some may be locked: they can be neither made nor removed. -/

structure Shelf where
  folders : List String := []
  locked : List String := []
  given : Nat := 0

namespace Shelf

def holds (path : String) (shelf : Shelf) : Bool := shelf.folders.any (Path.same path)

def isLocked (path : String) (shelf : Shelf) : Bool := shelf.locked.any (Path.same path)

def host : Host Shelf where
  isText _ := true
  hasEntry := holds
  hasFolder := holds
  readText _ _ := .error .missing
  list _ _ := .error .missing
  tree _ _ := .error .missing
  writeText _ _ shelf := (.error .denied, shelf)
  createFolder path shelf :=
    if shelf.isLocked path then (.error .denied, shelf)
    else (.ok (), { shelf with folders := shelf.folders ++ [path] })
  removeFolder path shelf :=
    if shelf.isLocked path then (.error .busy, shelf)
    else
      let others := shelf.folders.filter fun other => !Path.same path other
      (.ok (), { shelf with folders := others })
  freshName shelf :=
    (String.ofList (Nat.toDigits 10 shelf.given), { shelf with given := shelf.given + 1 })
  run _ shelf := (.error .missing, shelf)
  hear _ shelf := shelf
  isInterrupted shelf := (false, shelf)
  print _ _ shelf := (.ok (), shelf)

theorem truthful : Truthful host where
  seen _ _ there := there
  same p q shelf same := congrArg (List.any shelf.folders) (funext (same_congr same))
  gone p shelf removed := by
    unfold host at removed ⊢
    dsimp only at removed ⊢
    split at removed
    · cases removed
    · rename_i free
      rw [if_neg free]
      simp [holds]
  noNew p q shelf there := by
    unfold host at there
    dsimp only at there
    split at there
    · exact there
    · obtain ⟨other, here, same⟩ := List.any_eq_true.mp there
      exact List.any_eq_true.mpr ⟨other, (List.mem_filter.mp here).1, same⟩

end Shelf

/-- A clone whose tool fails, a folder that cannot be made, one that cannot be removed at first, and
paths that are recorded twice. -/
def shelfOperations : List (Operation Shelf) := [
  .clone "https://host/repo.git", .create "work-",
  .elsewhere fun shelf => { shelf with locked := ["/tmp/work-1", "/tmp/work-2"] },
  .create "work-", .record "/tmp//work-1/", .cleanUp, .record "/tmp/work-2", .create "work-"]

def Shelf.context : Context Shelf := { host := host }

def shelfHistory : History Shelf := history Shelf.context {} shelfOperations

theorem tracked_history_shelf :
    Truthful Shelf.context.host ∧ Tracked shelfHistory ∧
      CleansUp Shelf.context shelfHistory.session ∧
      shelfHistory.session.temporary = ["/tmp/work-1", "/tmp/work-2", "/tmp/work-3"] ∧
      shelfHistory.alive = ["/tmp/work-1", "/tmp/work-3"] := by
  obtain ⟨tracked, cleansUp⟩ :=
    tracked_history (c := Shelf.context) Shelf.truthful {} shelfOperations
  exact ⟨Shelf.truthful, tracked, cleansUp, by decide +kernel, by decide +kernel⟩

end OrchestrationGraph.Temporary
