import NamedCells.Proofs.Requests

/-!
# Engines behind handles do not interfere

Calls on any number of handles come in any order.  What is answered on one live handle is what a
single engine answers to the requests on this handle, as if there were no other engine and no table.

The engine of a handle is followed through the calls.  A call on the handle is a request carried out
on the engine; every other call leaves the engine where it is, a creation because the handle was
given out before, so that the next handle is a later one.

## Main definitions

* `HandleTable.repliesOn` — the replies to the calls on one handle.

## Main results

* `HandleTable.perform_of_request`, `HandleTable.resolve?_perform_of_other` — what a call does to
  the engine of a handle.
* `HandleTable.run_of_live` — what calls do to it.
* `HandleTable.replies_of_one_engine` — **a handle answers like an engine of its own.**
-/

namespace NamedCells

namespace HandleTable

variable {t : HandleTable} {h : Handle} {g : Engine} {call : Call} {calls : List Call}

/-! ### Runs -/

theorem run_cons (t : HandleTable) (call : Call) (calls : List Call) :
    t.run (call :: calls) =
      ((t.perform call).1 :: ((t.perform call).2.run calls).1,
        ((t.perform call).2.run calls).2) := rfl

theorem run_append (t : HandleTable) (xs ys : List Call) :
    t.run (xs ++ ys) =
      ((t.run xs).1 ++ ((t.run xs).2.run ys).1, ((t.run xs).2.run ys).2) := by
  induction xs generalizing t with
  | nil => rfl
  | cons x xs ih =>
    rw [List.cons_append, run_cons, ih, run_cons]
    rfl

/-- Every call is answered. -/
@[simp] theorem length_run (t : HandleTable) (calls : List Call) :
    (t.run calls).1.length = calls.length := by
  induction calls generalizing t with
  | nil => rfl
  | cons call calls ih => rw [run_cons, List.length_cons, ih, List.length_cons]

/-! ### One call -/

/-- Handles are given out in ascending order. -/
theorem next_le_perform (t : HandleTable) (call : Call) : t.next ≤ (t.perform call).2.next := by
  have outcome := t.perform_outcome call
  generalize t.perform call = after at outcome ⊢
  cases outcome with
  | created denotes =>
    rw [next_register]
    exact Nat.le_succ t.next
  | served asked live => exact Nat.le_of_eq next_put.symm
  | destroyed k which => exact Nat.le_of_eq next_release.symm
  | refused | notCreated | aside => exact Nat.le_refl t.next

theorem next_le_run (t : HandleTable) (calls : List Call) : t.next ≤ (t.run calls).2.next := by
  induction calls generalizing t with
  | nil => exact Nat.le_refl t.next
  | cons call calls ih => exact Nat.le_trans (t.next_le_perform call) (ih _)

/-- A call on a live handle is the request carried out on the engine of the handle. -/
theorem perform_of_request {request : Request} (live : t.resolve? h = some g)
    (on : call.request? h = some request) :
    (t.perform call).1 = (g.serve request).1 ∧
      (t.perform call).2.resolve? h = some (g.serve request).2 := by
  rw [perform_of_live (Call.request?_eq_some_iff.mp on) live, resolve?_put, if_pos rfl]
  exact ⟨rfl, rfl⟩

/-- Every other call leaves the engine of a handle that was given out, unless it is destroyed. -/
theorem resolve?_perform_of_other (given : h < t.next) (other : call.request? h = none)
    (kept : call ≠ .destroy h) : (t.perform call).2.resolve? h = t.resolve? h := by
  have outcome := t.perform_outcome call
  generalize t.perform call = after at outcome ⊢
  cases outcome with
  | served asked live =>
    -- the request is for another handle
    rename_i k request g
    have apart : k ≠ h := by
      rintro rfl
      rw [Call.request?_eq_some_iff.mpr asked] at other
      cases other
    rw [resolve?_put, if_neg apart]
  | created denotes => rw [resolve?_register, if_neg (Nat.ne_of_gt given)]
  | destroyed k which =>
    have apart : k ≠ h := by
      rintro rfl
      exact kept which
    rw [resolve?_release, if_neg apart]
  | refused | notCreated | aside => rfl

/-! ### The replies on a handle -/

/-- The replies to the calls on a handle. -/
def repliesOn (h : Handle) (calls : List Call) (replies : List CallReply) : List CallReply :=
  ((calls.zip replies).filter fun (call, _) => (call.request? h).isSome).map Prod.snd

theorem repliesOn_cons_of_request {request : Request} (on : call.request? h = some request)
    (calls : List Call) (reply : CallReply) (replies : List CallReply) :
    repliesOn h (call :: calls) (reply :: replies) = reply :: repliesOn h calls replies := by
  simp [repliesOn, on]

theorem repliesOn_cons_of_other (other : call.request? h = none) (calls : List Call)
    (reply : CallReply) (replies : List CallReply) :
    repliesOn h (call :: calls) (reply :: replies) = repliesOn h calls replies := by
  simp [repliesOn, other]

/-- Replies to later calls do not count. -/
theorem repliesOn_append {replies : List CallReply} (answered : calls.length = replies.length)
    (later : List CallReply) :
    repliesOn h calls (replies ++ later) = repliesOn h calls replies := by
  have zipped : (calls ++ []).zip (replies ++ later) = calls.zip replies ++ [].zip later :=
    List.zip_append answered
  rw [List.append_nil, List.zip_nil_left, List.append_nil] at zipped
  rw [repliesOn, zipped]
  rfl

/-- If all calls are on the handle, all replies are. -/
theorem repliesOn_eq_self {replies : List CallReply} (answered : calls.length = replies.length)
    (on : ∀ call ∈ calls, (call.request? h).isSome = true) :
    repliesOn h calls replies = replies := by
  unfold repliesOn
  rw [List.filter_eq_self.mpr, List.map_snd_zip (Nat.le_of_eq answered.symm)]
  rintro ⟨call, reply⟩ mem
  exact on call (List.of_mem_zip mem).1

/-- **The calls on a live handle, among any others, are requests to one engine.** -/
theorem run_of_live (given : h < t.next) (live : t.resolve? h = some g)
    (kept : .destroy h ∉ calls) :
    repliesOn h calls (t.run calls).1 =
        (g.serveAll (calls.filterMap (Call.request? h))).1 ∧
      (t.run calls).2.resolve? h = some (g.serveAll (calls.filterMap (Call.request? h))).2 := by
  induction calls generalizing t g with
  | nil => exact ⟨rfl, live⟩
  | cons call calls ih =>
    obtain ⟨apart, rest⟩ := List.ne_and_not_mem_of_not_mem_cons kept
    have given' : h < (t.perform call).2.next :=
      Nat.lt_of_lt_of_le given (t.next_le_perform call)
    rw [run_cons]
    rcases asked : call.request? h with _ | request
    · -- the engine stays where it is
      have live' := (resolve?_perform_of_other given asked apart.symm).trans live
      rw [repliesOn_cons_of_other asked, List.filterMap_cons_none asked]
      exact ih given' live' rest
    · -- the engine carries out the request
      obtain ⟨reply, live'⟩ := perform_of_request live asked
      obtain ⟨replies, last⟩ := ih given' live' rest
      rw [repliesOn_cons_of_request asked, List.filterMap_cons_some asked, Engine.serveAll_cons,
        reply, replies]
      exact ⟨rfl, last⟩

/-- Without the calls that are not on a live handle the replies on it are the same. -/
theorem repliesOn_run_eq_run_filter (given : h < t.next) (live : t.resolve? h = some g)
    (kept : .destroy h ∉ calls) :
    repliesOn h calls (t.run calls).1 =
      (t.run (calls.filter fun call => (call.request? h).isSome)).1 := by
  have on (call : Call) (mem : call ∈ calls.filter fun call => (call.request? h).isSome) :
      (call.request? h).isSome = true := (List.mem_filter.mp mem).2
  have kept' : .destroy h ∉ calls.filter fun call => (call.request? h).isSome :=
    fun mem => kept (List.mem_filter.mp mem).1
  -- the calls that are left make the same requests
  have requests : (calls.filter fun call => (call.request? h).isSome).filterMap (Call.request? h) =
      calls.filterMap (Call.request? h) := by
    rw [List.filterMap_filter]
    congr 1
    funext call
    cases call.request? h <;> rfl
  rw [(run_of_live given live kept).1, ← requests, ← (run_of_live given live kept').1]
  exact repliesOn_eq_self (length_run t _).symm on

/-- **A handle answers like an engine of its own.**  A sequence of calls from the beginning makes an
engine at some point.  The creation answers a handle, and until the handle is destroyed the replies
to the calls on it are those of a single engine with the policy of the creation that carries out the
requests on this handle and no others; all other calls might as well be left out. -/
theorem replies_of_one_engine (before during after : List Call) {creation : Call}
    {config : EngineConfig} (denotes : creation.creation? = some (some config)) :
    let replies := (empty.run (before ++ creation :: (during ++ after))).1
    ∃ h : Handle, h ≠ .null ∧ replies[before.length]? = some (.handle h) ∧
      (.destroy h ∉ during →
        let answers := repliesOn h during (replies.drop (before.length + 1))
        answers = ((Engine.new config).serveAll (during.filterMap (Call.request? h))).1 ∧
          answers = ((empty.run (before ++ [creation])).2.run
            (during.filter fun call => (call.request? h).isSome)).1) := by
  intro replies
  -- the tables before and after the creation
  let t := (empty.run before).2
  let u := (t.register (Engine.new config)).2
  have made : t.perform creation = (.handle t.next, u) := perform_of_creation denotes
  have parts : replies = (empty.run before).1 ++
      .handle t.next :: ((u.run during).1 ++ ((u.run during).2.run after).1) := by
    show (empty.run _).1 = _
    rw [run_append, run_cons, made, run_append]
  have begun : (empty.run (before ++ [creation])).2 = u := by
    rw [run_append]
    show (t.perform creation).2 = u
    rw [made]
  refine ⟨t.next, ?_, ?_, fun kept => ?_⟩
  · -- the first handle comes after the null
    have later : empty.next ≤ t.next := next_le_run empty before
    exact Nat.ne_of_gt (Nat.lt_of_lt_of_le (Nat.lt_succ_self Handle.null) later)
  · -- the reply to the creation stands behind those to the calls before
    rw [parts, List.getElem?_append_right (Nat.le_of_eq (length_run empty before)), length_run,
      Nat.sub_self]
    rfl
  · -- from there on the handle is live
    have given : t.next < u.next := Nat.lt_succ_self t.next
    have live : u.resolve? t.next = some (Engine.new config) := by
      rw [resolve?_register, if_pos rfl]
    have answers : repliesOn t.next during (replies.drop (before.length + 1)) =
        repliesOn t.next during (u.run during).1 := by
      rw [parts, List.append_cons, List.drop_left' (by simp), repliesOn_append (by simp)]
    rw [begun, answers]
    exact ⟨(run_of_live given live kept).1, repliesOn_run_eq_run_filter given live kept⟩

/-- Two engines take turns and one of them is destroyed.  The other, which does not redefine cells,
is asked for the same cell twice, for a name that is not passed, and for one that is no text. -/
theorem replies_of_one_engine_reject :
    let options : EngineOptions := { redefinition := redefineReject }
    let creation := Call.createEngineWithOptions (some options)
    let during : List Call :=
      [.create 2 (some [97]) ⟨0⟩, .create 1 (some [97]) ⟨0⟩, .createEngine, .destroy 1,
        .create 2 (some [97, 0, 98]) ⟨1⟩, .lastErrorCode 2, .get 2 none true,
        .set 2 (some [255]) ⟨1⟩, .get 3 (some [97]) true, .get 2 (some [97]) true, .count 2]
    let replies := (empty.run ([.createEngine] ++ creation :: (during ++ [.destroy 2]))).1
    creation.creation? = some (some ⟨.reject, false, defaultMaxCells⟩) ∧
      repliesOn 2 during (replies.drop 2) =
        [.code .ok, .code .duplicateCellName, .code .duplicateCellName,
          .codeAndOut .invalidName none, .code .invalidName, .codeAndOut .ok (some ⟨0⟩),
          .count 1] := by
  intro options creation during replies
  have denotes : creation.creation? = some (some ⟨.reject, false, defaultMaxCells⟩) := rfl
  refine ⟨denotes, ?_⟩
  obtain ⟨h, -, made, same⟩ := replies_of_one_engine [.createEngine] during [.destroy 2] denotes
  obtain rfl : 2 = h := CallReply.handle.inj (Option.some.inj made)
  refine (same (by decide)).2.trans ?_
  decide +kernel

end HandleTable

end NamedCells
