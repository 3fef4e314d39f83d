import Mathlib.Data.List.Basic
import Mathlib.Data.List.Induction
import NamedCells.Proofs.Isolation

/-!
# The life of a handle

A handle is given out by the call that makes its engine, and lives until the first call that
destroys it.  No later engine gets the same handle, however many are made, so a handle that was
destroyed stays dead; and a dead handle is of no use to a caller, nor can it do any harm.

All of this rests on the counter of the table: it is one more than the number of engines made so
far, and every handle given out is below it.

## Main definitions

* `Call.creates` — the calls that make an engine.
* `HandleTable.LivesAfter calls h` — one of the calls gave `h` out and none after it destroyed it.

## Main results

* `HandleTable.isSome_resolve?_perform` — which handles have an engine after a call.
* `HandleTable.isSome_resolve?_run` — **the handles with an engine are those that live.**
* `HandleTable.next_run`, `HandleTable.lt_next_of_mem_run` — the counter is ahead of all handles.
* `HandleTable.lives_until_destroyed` — the life of a handle, and what it means to be dead.
-/

namespace NamedCells

/-- Whether a call makes an engine.  One whose numbers denote no policy does not. -/
def Call.creates (call : Call) : Bool := call.creation?.join.isSome

theorem Call.creates_iff {call : Call} :
    call.creates = true ↔ ∃ config, call.creation? = some (some config) := by
  rw [creates, Option.isSome_iff_exists]
  exact exists_congr fun config => Option.join_eq_some_iff

theorem Call.creates_of_creation? {call : Call} {config : EngineConfig}
    (denotes : call.creation? = some (some config)) : call.creates = true :=
  Call.creates_iff.mpr ⟨config, denotes⟩

/-- A call with a request to a handle makes no engine. -/
theorem Call.creates_of_addressed? {call : Call} {asked : Handle × Request}
    (h : call.addressed? = some asked) : call.creates = false := by
  cases call with
  | createEngine | createEngineWithOptions => cases h
  | _ => rfl

namespace HandleTable

variable {t : HandleTable} {h : Handle} {call : Call} {calls : List Call}

/-! ### One call -/

/-- The counter goes up with each engine. -/
theorem next_perform (t : HandleTable) (call : Call) :
    (t.perform call).2.next = t.next + if call.creates then 1 else 0 := by
  have outcome := t.perform_outcome call
  generalize t.perform call = after at outcome ⊢
  cases outcome with
  | served asked live => rw [Call.creates_of_addressed? asked]; rfl
  | refused asked dead => rw [Call.creates_of_addressed? asked]; rfl
  | created denotes => rw [Call.creates_of_creation? denotes]; rfl
  | notCreated denotes => simp [Call.creates, denotes]
  | destroyed k which => subst which; rfl
  | aside reply noRequest noCreation => simp [Call.creates, noCreation]

/-- A call that answers with a handle made an engine, and the handle is the next one; or no engine
was made, and the handle is null. -/
theorem eq_of_perform_eq_handle (answer : (t.perform call).1 = .handle h) :
    (call.creates = true ∧ h = t.next) ∨ (call.creates = false ∧ h = Handle.null) := by
  rcases denotes : call.creation? with _ | _ | config
  · cases call with
    | createEngine => cases denotes
    | createEngineWithOptions options => cases options <;> cases denotes
    | _ => cases answer
  · rw [perform_of_refused_creation denotes] at answer
    exact .inr ⟨by simp [Call.creates, denotes], (CallReply.handle.inj answer).symm⟩
  · rw [perform_of_creation denotes] at answer
    exact .inl ⟨Call.creates_of_creation? denotes, (CallReply.handle.inj answer).symm⟩

/-- **Which handles have an engine after a call**: the one that the call gave out, and those from
before that it did not destroy. -/
theorem isSome_resolve?_perform (t : HandleTable) (call : Call) (h : Handle) :
    ((t.perform call).2.resolve? h).isSome = true ↔
      (call.creates = true ∧ (t.perform call).1 = .handle h) ∨
        ((t.resolve? h).isSome = true ∧ call ≠ .destroy h) := by
  by_cases destroys : ∃ k, call = .destroy k
  · obtain ⟨k, rfl⟩ := destroys
    have idle : (Call.destroy k).creates = false := rfl
    have erased : (t.perform (.destroy k)).2.resolve? h = if k = h then none else t.resolve? h :=
      resolve?_release
    rw [erased, idle]
    by_cases same : k = h <;> simp [same]
  · have spared : call ≠ .destroy h := fun same => destroys ⟨h, same⟩
    have outcome := t.perform_outcome call
    generalize t.perform call = after at outcome ⊢
    cases outcome with
    | served asked live =>
      -- the engine of another handle, or of this one, is replaced by another
      rename_i k request g
      rw [resolve?_put, Call.creates_of_addressed? asked]
      by_cases same : k = h
      · subst same
        simp [live, spared]
      · simp [same, spared]
    | refused asked dead => simp [Call.creates_of_addressed? asked, spared]
    | created denotes =>
      rw [resolve?_register, Call.creates_of_creation? denotes]
      by_cases same : t.next = h <;> simp [same, spared]
    | notCreated denotes => simp [Call.creates, denotes, spared]
    | destroyed k which => exact absurd ⟨k, which⟩ destroys
    | aside reply noRequest noCreation => simp [Call.creates, noCreation, spared]

/-! ### Runs -/

/-- A run with one more call at its end. -/
theorem run_concat (t : HandleTable) (calls : List Call) (call : Call) :
    t.run (calls ++ [call]) =
      ((t.run calls).1 ++ [((t.run calls).2.perform call).1],
        ((t.run calls).2.perform call).2) := run_append t calls [call]

/-- The counter goes up by the number of engines made. -/
theorem next_run (t : HandleTable) (calls : List Call) :
    (t.run calls).2.next = t.next + calls.countP Call.creates := by
  induction calls using List.reverseRecOn with
  | nil => rfl
  | append_singleton calls call ih =>
    rw [run_concat, next_perform, ih, List.countP_append, List.countP_singleton, Nat.add_assoc]

/-- The counter is ahead of all handles that were given out. -/
theorem lt_next_of_mem_run (positive : Handle.null < t.next)
    (given : .handle h ∈ (t.run calls).1) : h < (t.run calls).2.next := by
  induction calls using List.reverseRecOn with
  | nil => cases given
  | append_singleton calls call ih =>
    have before : t.next ≤ (t.run calls).2.next := t.next_le_run calls
    have after := (t.run calls).2.next_le_perform call
    rw [run_concat, List.mem_append, List.mem_singleton] at given
    rw [run_concat]
    rcases given with earlier | now
    · exact Nat.lt_of_lt_of_le (ih earlier) after
    · rcases eq_of_perform_eq_handle now.symm with ⟨creates, rfl⟩ | ⟨-, rfl⟩
      · rw [next_perform, if_pos creates]
        exact Nat.lt_succ_self _
      · exact Nat.lt_of_lt_of_le positive (Nat.le_trans before after)

/-- One of the calls, made one after the other from the beginning, gave a handle out, and none after
it destroyed the handle. -/
def LivesAfter (calls : List Call) (h : Handle) : Prop :=
  ∃ before creation during, calls = before ++ creation :: during ∧ creation.creates = true ∧
    (empty.run calls).1[before.length]? = some (.handle h) ∧ .destroy h ∉ during

theorem not_livesAfter_nil (h : Handle) : ¬ LivesAfter [] h := by
  rintro ⟨before, creation, during, split, -⟩
  exact absurd split (by simp)

/-- A handle lives after one more call if this call gave it out, or if it lived before and is
spared. -/
theorem livesAfter_concat_iff :
    LivesAfter (calls ++ [call]) h ↔
      (call.creates = true ∧ ((empty.run calls).2.perform call).1 = .handle h) ∨
        (LivesAfter calls h ∧ call ≠ .destroy h) := by
  unfold LivesAfter
  rw [run_concat]
  constructor
  · rintro ⟨before, creation, during, split, creates, given, spared⟩
    rcases List.eq_nil_or_concat' during with rfl | ⟨during, last, rfl⟩
    · -- the creation is the last call
      obtain ⟨rfl, same⟩ := List.append_inj' split rfl
      obtain rfl := List.singleton_inj.mp same
      refine .inl ⟨creates, ?_⟩
      rw [← length_run empty calls] at given
      simpa using given
    · -- the creation is among the calls before the last
      rw [← List.cons_append, ← List.append_assoc] at split
      obtain ⟨rfl, same⟩ := List.append_inj' split rfl
      obtain rfl := List.singleton_inj.mp same
      rw [List.mem_append, List.mem_singleton, not_or] at spared
      refine .inr ⟨⟨before, creation, during, rfl, creates, ?_, spared.1⟩, Ne.symm spared.2⟩
      rwa [List.getElem?_append_left (by simp)] at given
  · rintro (⟨creates, given⟩ | ⟨⟨before, creation, during, rfl, creates, given, spared⟩, other⟩)
    · refine ⟨calls, call, [], rfl, creates, ?_, List.not_mem_nil⟩
      rw [← length_run empty calls]
      simpa using given
    · refine ⟨before, creation, during ++ [call], by simp, creates, ?_, ?_⟩
      · rwa [List.getElem?_append_left (by simp)]
      · simp [spared, Ne.symm other]

/-- **The handles with an engine are those that live.** -/
theorem isSome_resolve?_run (calls : List Call) (h : Handle) :
    ((empty.run calls).2.resolve? h).isSome = true ↔ LivesAfter calls h := by
  -- a handle gains and loses its engine by the very calls that begin and end its life
  induction calls using List.reverseRecOn with
  | nil => simp [run, empty, resolve?, not_livesAfter_nil]
  | append_singleton calls call ih =>
    rw [run_concat, isSome_resolve?_perform, ih, livesAfter_concat_iff]

/-- To destroy a handle without an engine changes nothing. -/
theorem release_of_dead (dead : t.resolve? h = none) : t.release h = t := by
  have same : t.live.erase h = t.live := by
    apply Std.ExtTreeMap.ext_getElem?
    intro k
    rw [Std.ExtTreeMap.getElem?_erase]
    split
    · next equal =>
      rw [← Std.LawfulEqCmp.eq_of_compare equal]
      exact dead.symm
    · rfl
  unfold release
  rw [same]

/-- A call on a dead handle, be it one more destruction, leaves the table as it is. -/
theorem perform_eq_self_of_dead (dead : t.resolve? h = none)
    (on : call = .destroy h ∨ ∃ request, call.addressed? = some (h, request)) :
    (t.perform call).2 = t := by
  rcases on with rfl | ⟨request, asked⟩
  · exact release_of_dead dead
  · rw [perform_of_dead asked dead]

/-- **A handle lives from its creation until it is destroyed, and never again.**  After any calls,
made one after the other from the beginning:

* The next engine gets a handle that is not null and that no call has answered with, whether or not
  the engines of the earlier handles still exist.  It is one more than the number of engines made so
  far, so that a counter of 64 bits is wide enough for fewer than 2⁶⁴ - 1 engines.
* A handle has an engine iff it lives: a call gave it out, and no later call destroyed it.
* On a handle that does not live, be it null, never given out, or destroyed long ago, every request
  is refused.  Such a call, or another destruction, makes no difference to the answers of all later
  calls. -/
theorem lives_until_destroyed (calls : List Call) :
    let t := (empty.run calls).2
    (∀ creation config, creation.creation? = some (some config) →
      ∃ h : Handle, (t.perform creation).1 = .handle h ∧ h ≠ .null ∧
        .handle h ∉ (empty.run calls).1 ∧ h = calls.countP Call.creates + 1) ∧
    (∀ h, (t.resolve? h).isSome = true ↔ LivesAfter calls h) ∧
    ∀ h, ¬ LivesAfter calls h →
      (∀ call request, call.addressed? = some (h, request) →
        (t.perform call).1 = request.refusal) ∧
      ∀ call, (call = .destroy h ∨ ∃ request, call.addressed? = some (h, request)) →
        ∀ later, ((t.perform call).2.run later).1 = (t.run later).1 := by
  intro t
  refine ⟨?_, isSome_resolve?_run calls, ?_⟩
  · intro creation config denotes
    have next : t.next = calls.countP Call.creates + 1 := by
      rw [next_run]
      exact Nat.add_comm _ _
    refine ⟨t.next, by rw [perform_of_creation denotes], ?_, ?_, next⟩
    · rw [next]
      exact Nat.succ_ne_zero _
    · intro given
      exact absurd (lt_next_of_mem_run (Nat.lt_succ_self Handle.null) given) (Nat.lt_irrefl _)
  · intro h lifeless
    have dead : t.resolve? h = none := by
      rw [← Option.not_isSome_iff_eq_none, isSome_resolve?_run]
      exact lifeless
    refine ⟨fun call request asked => by rw [perform_of_dead asked dead], ?_⟩
    intro call on later
    rw [perform_eq_self_of_dead dead on]

/-- A refused creation, a destruction of a handle that is not given out yet, and one of a handle
that is.  The third engine is given neither of the two handles before.  The second handle lives all
the same; the first is dead, and to destroy it again, or to ask it for a cell, does not matter. -/
theorem lives_until_destroyed_stale :
    let calls : List Call :=
      [.createEngineWithOptions (some { maxCells := 0 }), .createEngine, .destroy 2, .createEngine,
        .create 2 (some [97]) ⟨5⟩, .destroy 1]
    let t := (empty.run calls).2
    (t.perform .createEngine).1 = .handle 3 ∧ LivesAfter calls 2 ∧ ¬ LivesAfter calls 1 ∧
      (t.perform (.get 1 (some [97]) true)).1 = .codeAndOut .invalidEngineHandle none ∧
      ((t.perform (.destroy 1)).2.run [.createEngine, .get 2 (some [97]) true]).1 =
        [.handle 3, .codeAndOut .ok (some ⟨5⟩)] := by
  intro calls t
  obtain ⟨fresh, live, dead⟩ := lives_until_destroyed calls
  have lives : LivesAfter calls 2 := (live 2).mp (by decide +kernel)
  have lifeless : ¬ LivesAfter calls 1 := by
    rw [← live 1]
    decide +kernel
  obtain ⟨refused, harmless⟩ := dead 1 lifeless
  obtain ⟨h, given, -, -, rfl⟩ := fresh .createEngine {} rfl
  refine ⟨given, lives, lifeless, refused (.get 1 (some [97]) true) _ rfl, ?_⟩
  rw [harmless (.destroy 1) (.inl rfl)]
  decide +kernel

end HandleTable

end NamedCells
