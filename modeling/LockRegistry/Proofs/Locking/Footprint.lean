import LockRegistry.Proofs.Locking.Gate
import LockRegistry.Proofs.Locking.Origin
import LockRegistry.Proofs.Sessions.Alone
import LockRegistry.Regex.Runner

/-! What a request leaves behind, whatever other sessions do to the store meanwhile. -/

namespace LockRegistry

def Exchange.marks : Exchange → Bool
  | ⟨.markRevocation _ _ _, _⟩ => true
  | _ => false

lemma Exchange.marks_eq_false {x : Exchange}
    (h : ∀ key lockId user, x.call ≠ .markRevocation key lockId user) : x.marks = false := by
  unfold marks
  split
  · exact absurd rfl (h _ _ _)
  · rfl

variable [Regex.Engine]

lemma Entry.marked {ι : Type} {s : Store} {e : Entry ι} {key : LockKey} {lockId user : String}
    (h : ⟨.markRevocation key lockId user, true⟩ = e.exchange s) :
    e.call = .markRevocation key lockId user ∧
      ∃ row, s.locks.find? key = some row ∧ row.lockId = lockId := by
  obtain ⟨hc, stamped⟩ := answered h
  simp only [Store.apply, Store.markRevocation] at stamped
  split at stamped
  · rename_i row held
    split at stamped
    · rename_i named
      exact ⟨hc, row, held, named⟩
    · cases stamped
  · cases stamped

lemma Authority.Asks.caller {office project application : String} {user : Option String}
    {l : List Exchange} (h : Asks office user project application l (.ok true)) :
    ∃ raw, user = some raw ∧ Field.user.normalize (user.getD "") = .ok (Text.trim raw) := by
  generalize hr : Except.ok true = o at h
  cases h with
  | @answered q hq name named =>
    obtain ⟨-, -, -, hc⟩ := Question.of_ofRaw hq
    rw [named] at hc
    obtain ⟨-, raw, rfl, rfl⟩ := caller?_eq_some hc
    obtain ⟨_, ⟨⟩, -, hu⟩ := normalize_of_caller? hc
    exact ⟨raw, rfl, hu⟩
  | _ => cases hr

namespace Locking

variable {key : LockKey} {lock : NewLock} {r : LockRequest} {caller : Option String}
  {lockId user : String} {l p p' q : List Exchange} {x : Exchange}
  {o : Except LockError AcquireOutcome}

lemma Asks.idle {a : Except LockError Bool} (h : Asks key caller l a) (hx : x ∈ l) :
    x.acts = false := by
  cases h with
  | answered | unreadable =>
    obtain rfl := List.mem_singleton.1 hx
    rfl
  | _ => cases hx

def Quiet (r : LockRequest) : Except LockError AcquireOutcome → Prop
  | .ok (.acquired _) => False
  | .ok .revokeDenied | .error (.argument _) => True
  | _ => r.revokeExisting = false

omit [Regex.Engine] in
lemma Awaits.not_quiet (h : Awaits lock l o) (revoke : r.revokeExisting = true) :
    ¬ Quiet r o := by
  intro quiet
  cases h with
  | released n again =>
    cases again with
    | acquired => exact quiet
    | lost => cases revoke.symm.trans quiet
  | _ => cases revoke.symm.trans quiet

lemma Requests.idle (h : Requests r caller lockId l o) (quiet : Quiet r o) (hx : x ∈ l) :
    x.acts = false := by
  cases h with
  | refused => cases hx
  | acquired => cases quiet
  | held =>
    simp only [List.mem_cons, List.not_mem_nil, or_false] at hx
    rcases hx with rfl | rfl <;> rfl
  | revoking revoke h =>
    cases h with
    | failed asks | denied asks | unnamed asks _ =>
      rcases List.mem_cons.1 hx with rfl | hx
      · rfl
      · exact asks.idle hx
    | allowed _ _ _ wait => exact absurd quiet (wait.not_quiet revoke)

lemma Requests.error (h : Requests r caller lockId l o) {e : LockError} (failed : o = .error e) :
    e = .cancelled ∨ ∃ cause, e = .argument cause := by
  cases h with
  | refused =>
    cases failed
    exact .inr ⟨_, rfl⟩
  | acquired | held => cases failed
  | revoking revoke h =>
    cases h with
    | denied => cases failed
    | unnamed =>
      cases failed
      exact .inr ⟨_, rfl⟩
    | failed asks =>
      cases failed
      cases asks with
      | refused | unreadable => exact .inr ⟨_, rfl⟩
    | allowed _ _ _ wait =>
      cases wait with
      | cancelled =>
        cases failed
        exact .inl rfl
      | _ => cases failed

lemma Asks.not_marks {a : Except LockError Bool} (h : Asks key caller l a) (hx : x ∈ l) :
    x.marks = false := by
  obtain ⟨name, hc⟩ := h.call hx
  exact Exchange.marks_eq_false fun _ _ _ => by rw [hc]; exact Call.noConfusion

omit [Regex.Engine] in
lemma Awaits.not_marks (h : Awaits lock l o) (hx : x ∈ l) : x.marks = false := by
  rcases h.call hx with hc | hc | hc <;>
    exact Exchange.marks_eq_false fun _ _ _ => by rw [hc]; exact Call.noConfusion

lemma Requests.marks_once (h : Requests r caller lockId l o) :
    l.countP Exchange.marks ≤ 1 := by
  have none_of {m : List Exchange} (hm : ∀ x ∈ m, x.marks = false) :
      m.countP Exchange.marks = 0 :=
    List.countP_eq_zero.2 fun x hx => by simp [hm x hx]
  cases h with
  | refused | acquired | held => exact Nat.zero_le 1
  | revoking revoke h =>
    have first : Exchange.marks ⟨.insertLock (newLock r lockId), none⟩ = false := rfl
    cases h with
    | failed asks | denied asks | unnamed asks _ =>
      simp [none_of fun _ => asks.not_marks, first]
    | allowed asks name stamp wait =>
      simp only [List.countP_cons, List.countP_append, none_of fun _ => asks.not_marks,
        none_of fun _ => wait.not_marks, first]
      cases stamp with
      | free => exact Nat.zero_le 1
      | found => exact Nat.le_refl 1

omit [Regex.Engine] in
lemma Stamps.marks (h : Stamps key user l) (split : l ++ q = p ++ x :: p') (hx : x.marks = true)
    (waits : x ∉ q) : ∃ holder stamped, p = [⟨.findLock key, some holder⟩] ∧
      x = ⟨.markRevocation key holder.lockId user, stamped⟩ := by
  have finds {holder : Option Lock} : ⟨.findLock key, holder⟩ ≠ x := by
    rintro rfl
    cases hx
  cases h with
  | free =>
    -- nothing was stamped, and what comes after only waits
    have mem : x ∈ [⟨.findLock key, none⟩] ++ q := split ▸ by simp
    exact absurd ((List.mem_cons.1 mem).resolve_left finds.symm) waits
  | found holder stamped =>
    rw [List.cons_append, List.singleton_append] at split
    match p, split with
    | [], split => exact absurd (List.cons.inj split).1 finds
    | [y], split =>
      simp only [List.singleton_append, List.cons.injEq] at split
      obtain ⟨rfl, rfl, -⟩ := split
      exact ⟨holder, stamped, rfl, rfl⟩
    | y :: z :: p, split =>
      simp only [List.cons_append, List.cons.injEq] at split
      obtain ⟨-, -, rfl⟩ := split
      simp at waits

lemma Requests.marks (h : Requests r caller lockId (p ++ x :: q) o) (hx : x.marks = true) :
    ∃ p' holder raw stamped, p = p' ++ [⟨.findLock r.key, some holder⟩] ∧ caller = some raw ∧
      x = ⟨.markRevocation r.key holder.lockId (Text.trim raw), stamped⟩ := by
  generalize hl : p ++ x :: q = l at h
  have mem : x ∈ l := hl ▸ by simp
  have other {m : List Exchange} (hm : ∀ y ∈ m, y.marks = false) : x ∉ m := fun hm' => by
    cases hx.symm.trans (hm x hm')
  cases h with
  | refused | acquired | held => exact absurd mem (other (by simp [Exchange.marks]))
  | revoking revoke h =>
    have first : x ∉ [⟨.insertLock (newLock r lockId), none⟩] := other (by simp [Exchange.marks])
    rw [← List.singleton_append] at hl mem
    cases h with
    | failed asks | denied asks | unnamed asks _ =>
      exact absurd ((List.mem_append.1 mem).resolve_left first) (other fun _ => asks.not_marks)
    | @allowed asked stamps waits _ _ asks name stamp wait =>
      obtain ⟨raw, rfl, hu⟩ := Authority.Asks.caller asks
      obtain rfl := Except.ok.inj (name.symm.trans hu)
      have split : ([⟨.insertLock (newLock r lockId), none⟩] ++ asked) ++ (stamps ++ waits) =
          p ++ x :: q := by simpa using hl.symm
      obtain ⟨m, rfl⟩ := prefix_of_append_eq split fun hx =>
        (List.mem_append.1 hx).elim first (other fun _ => asks.not_marks)
      rw [List.append_assoc _ m, List.append_cancel_left_eq] at split
      obtain ⟨holder, stamped, rfl, rfl⟩ := stamp.marks split hx (other fun _ => wait.not_marks)
      exact ⟨_, holder, raw, stamped, rfl, rfl, rfl⟩

end Locking

namespace Sessions

open Locking (newLock)

section Footprint

variable {ι : Type} (j : List (Entry ι)) (i : ι)

def Idle : Prop :=
  ∀ n e, j[n]? = some e → e.session = i → Store.empty.instant j (n + 1) = Store.empty.instant j n

def Marks (g : Nat) (key : LockKey) (caller : Option String) : Prop :=
  ∃ f found now raw holder row, f < g ∧ caller = some raw ∧
    j[f]? = some ⟨i, found, .findLock key⟩ ∧ Store.empty.lockAt j f key = some holder ∧
    j[g]? = some ⟨i, now, .markRevocation key holder.lockId (Text.trim raw)⟩ ∧
    Store.empty.lockAt j g key = some row ∧ row.lockId = holder.lockId ∧
    Store.empty.lockAt j (g + 1) key = some (row.stamped (Text.trim raw) now) ∧
    Store.SameBut key (Store.empty.instant j g) (Store.empty.instant j (g + 1))

def Puts (m : Nat) (r : LockRequest) (lockId : String) : Prop :=
  ∃ now, j[m]? = some ⟨i, now, .insertLock (newLock r lockId)⟩ ∧
    Store.empty.lockAt j m r.key = none ∧
    Store.empty.lockAt j (m + 1) r.key = some ((newLock r lockId).toLock now) ∧
    Store.SameBut r.key (Store.empty.instant j m) (Store.empty.instant j (m + 1))

def Leaves (r : LockRequest) (lockId : String) : Except LockError AcquireOutcome → Prop
  | .ok (.acquired a) => a = lockId ∧ ∃ m, Puts j i m r lockId
  | .ok .revokeDenied | .error (.argument _) => Idle j i
  | .ok (.lockHeld _ _) | .ok (.revokeTimedOut _) | .error .cancelled =>
    (∀ m, ¬ Puts j i m r lockId) ∧ (r.revokeExisting = false → Idle j i)
  | .error _ => False

variable {j i}

variable {m : Nat} {r : LockRequest} {lockId : String}

lemma Puts.inserts (h : Puts j i m r lockId) :
    Store.empty.Inserts j m i r.key lockId := by
  obtain ⟨now, he, free, next, -⟩ := h
  exact ⟨now, newLock r lockId, he, rfl, rfl, free, next⟩

lemma Puts.of_free {now : Timestamp}
    (he : j[m]? = some ⟨i, now, .insertLock (newLock r lockId)⟩)
    (free : Store.empty.lockAt j m r.key = none) : Puts j i m r lockId := by
  refine ⟨now, he, free, Store.lockAt_inserted (l := newLock r lockId) he free, ?_⟩
  rw [Store.instant_succ_of_getElem? he]
  exact (Store.empty.instant j m).sameBut_insertLock now (newLock r lockId)

end Footprint

variable {ι : Type} [DecidableEq ι] {calls : ι → Operation} {h : List (Turn ι)} {i : ι}
  {config : LockConfig} {r : LockRequest} {caller : Option String} {lockId : String} {n : Nat}
  {e : Entry ι}

lemma requests_at (own : calls i = .request config r caller lockId)
    (he : ((start calls).journal h)[n]? = some e) (mine : e.session = i) :
    ∃ l o, Locking.Requests r caller lockId
      (exchanges i .empty (((start calls).journal h).take n) ++
        e.exchange (Store.empty.instant ((start calls).journal h) n) :: l) o := by
  obtain ⟨l, o, requests⟩ := requests_of_own (h := h) own
  obtain ⟨l', split⟩ := exchanges_at .empty he mine
  rw [split, List.append_assoc] at requests
  exact ⟨l' ++ l, o, requests⟩

lemma idle_of_exchanges
    (idle : ∀ x ∈ exchanges i .empty ((start calls).journal h), x.acts = false) :
    Idle ((start calls).journal h) i :=
  fun _ _ => instant_of_idle idle

lemma found_before_mark (own : calls i = .request config r caller lockId)
    {key : LockKey} {holder user : String} {now : Timestamp}
    (he : ((start calls).journal h)[n]? = some ⟨i, now, .markRevocation key holder user⟩) :
    key = r.key ∧ ∃ f found lock raw, f < n ∧ caller = some raw ∧ user = Text.trim raw ∧
      ((start calls).journal h)[f]? = some ⟨i, found, .findLock key⟩ ∧
      Store.empty.lockAt ((start calls).journal h) f key = some lock ∧ holder = lock.lockId := by
  obtain ⟨l, o, requests⟩ := requests_at own he rfl
  obtain ⟨p, lock, raw, _, early, rfl, hx⟩ := requests.marks rfl
  obtain ⟨rfl, rfl, rfl⟩ := Call.markRevocation.inj (congrArg Exchange.call hx)
  obtain ⟨f, e', hf, he', own', hx', -⟩ := exchanges_split_take early
  obtain ⟨-, found⟩ := Entry.found hx'
  exact ⟨rfl, f, e'.now, lock, raw, hf, rfl, rfl, Entry.eq_of_exchange own' hx' ▸ he', found, rfl⟩

lemma marks_of_stamped (own : calls i = .request config r caller lockId)
    {key : LockKey} {holder user : String} {now : Timestamp}
    (he : ((start calls).journal h)[n]? = some ⟨i, now, .markRevocation key holder user⟩)
    (stamped : ((Store.empty.instant ((start calls).journal h) n).markRevocation now key holder
      user).1 = true) :
    Marks ((start calls).journal h) i n r.key caller := by
  obtain ⟨rfl, f, found, lock, raw, hf, named, rfl, he', hl, rfl⟩ := found_before_mark own he
  obtain ⟨-, row, held, same⟩ :=
    Entry.marked (e := ⟨i, now, _⟩) (congrArg (Exchange.mk _) stamped.symm)
  refine ⟨f, found, now, raw, lock, row, hf, named, he', hl, he, held, same,
    Store.lockAt_stamped (same ▸ he) held, ?_⟩
  rw [Store.instant_succ_of_getElem? he]
  exact Store.sameBut_markRevocation ..

lemma effect_of_own (own : calls i = .request config r caller lockId)
    (he : ((start calls).journal h)[n]? = some e) (mine : e.session = i) :
    Store.empty.instant ((start calls).journal h) (n + 1) =
        Store.empty.instant ((start calls).journal h) n ∨
      Marks ((start calls).journal h) i n r.key caller ∨
      Puts ((start calls).journal h) i n r lockId := by
  have may := mayCall_of_getElem? he
  obtain ⟨_, now, c⟩ := e
  subst mine
  rw [own] at may
  have idle := Store.instant_succ_of_idle (s := .empty) he
  rcases may with rfl | rfl | rfl | ⟨_, rfl⟩ | ⟨holder, user, -, rfl⟩
  · cases held : Store.empty.lockAt ((start calls).journal h) n r.key with
    | none => exact .inr (.inr (.of_free he held))
    | some row =>
      refine .inl (idle ?_)
      rw [Store.lockAt] at held
      simp [Entry.exchange, Entry.reply, Store.apply, Store.insertLock, Exchange.acts,
        Table.contains_eq_isSome, held]
  · exact .inl (idle rfl)
  · exact .inl (idle rfl)
  · exact .inl (idle rfl)
  · cases stamped : ((Store.empty.instant ((start calls).journal h) n).markRevocation now r.key
      holder user).1 with
    | false => exact .inl (idle stamped)
    | true => exact .inr (.inl (marks_of_stamped own he stamped))

lemma marks_unique (own : calls i = .request config r caller lockId) {m : Nat} {key key' : LockKey}
    (hm : Marks ((start calls).journal h) i m key caller)
    (hn : Marks ((start calls).journal h) i n key' caller) : m = n := by
  obtain ⟨_, _, _, _, _, _, -, -, -, -, he, -⟩ := hm
  obtain ⟨_, _, _, _, _, _, -, -, -, -, he', -⟩ := hn
  obtain ⟨l, o, requests⟩ := requests_of_own (h := h) own
  have once := requests.marks_once
  rw [List.countP_append] at once
  exact exchanges_unique (Nat.le_of_add_right_le once) he he' rfl rfl rfl rfl

lemma exists_puts {a : String}
    (requests : Locking.Requests r caller lockId (exchanges i .empty ((start calls).journal h))
      (.ok (.acquired a))) : a = lockId ∧ ∃ m, Puts ((start calls).journal h) i m r lockId := by
  obtain ⟨-, row, mem, rfl⟩ := requests.inserts
  obtain ⟨m, now, he, free, rfl⟩ := Store.exists_inserted mem
  exact ⟨rfl, m, .of_free he free⟩

lemma leaves_of_requests {o : Except LockError AcquireOutcome}
    (requests : Locking.Requests r caller lockId (exchanges i .empty ((start calls).journal h)) o) :
    Leaves ((start calls).journal h) i r lockId o := by
  have quiet (quiet : Locking.Quiet r o) : Idle ((start calls).journal h) i :=
    idle_of_exchanges fun _ => requests.idle quiet
  have kept (lost : ∀ a, o ≠ .ok (.acquired a)) (m : Nat) :
      ¬ Puts ((start calls).journal h) i m r lockId :=
    fun puts => Store.not_inserts (requests.not_inserts lost) puts.inserts
  match o with
  | .ok (.acquired a) => exact exists_puts requests
  | .ok (.lockHeld _ _) | .ok (.revokeTimedOut _) | .error .cancelled =>
    exact ⟨kept fun _ => nofun, quiet⟩
  | .ok .revokeDenied | .error (.argument _) => exact quiet trivial
  | .error (.revokeDenied _ _) | .error (.database _) =>
    rcases requests.error rfl with ⟨⟨⟩⟩ | ⟨_, ⟨⟩⟩

/-- How a request ended tells what it did to the store, whatever other sessions do meanwhile. -/
theorem request_footprint (calls : ι → Operation) (h : List (Turn ι)) {i : ι} {config : LockConfig}
    {r : LockRequest} {caller : Option String} {lockId : String}
    (own : calls i = .request config r caller lockId) :
    let j := (start calls).journal h
    (∀ n e key row, j[n]? = some e → e.session = i → Store.empty.lockAt j n key = some row →
      ∃ row', Store.empty.lockAt j (n + 1) key = some row' ∧ row'.unstamped = row.unstamped) ∧
    (∀ n e, j[n]? = some e → e.session = i →
      Store.empty.instant j (n + 1) = Store.empty.instant j n ∨ Marks j i n r.key caller ∨
        Puts j i n r lockId) ∧
    (∀ m n, Marks j i m r.key caller → Marks j i n r.key caller → m = n) ∧
    (∀ m n, Puts j i m r lockId → Puts j i n r lockId → m = n) ∧
    (∀ v, ((start calls).run h).result? i = some v →
      ∃ o, v = o.map .outcome ∧ Leaves j i r lockId o ∧
        ((∀ a, o ≠ .ok (.acquired a)) → (∀ i', (calls i').madeId? = some lockId → i' = i) →
          ∀ n key row, Store.empty.lockAt j n key = some row → row.lockId ≠ lockId)) ∧
    (∀ office project application l,
      (Authority.mayRevoke office caller project application).Makes l (.ok true) →
        ∃ raw, caller = some raw ∧
          Field.user.normalize (caller.getD "") = .ok (Text.trim raw)) := by
  intro j
  refine ⟨?_, fun n e => effect_of_own own, fun m n => marks_unique own,
    fun m n hm hn => hm.inserts.unique (inserts_once own) hn.inserts, ?_,
    fun _ _ _ _ makes => (Authority.asks_of_makes makes).caller⟩
  · intro n e key row he mine held
    rcases Store.lockAt_succ_of_held held with ⟨row', next, same, -⟩ | ⟨e', _, he', _, removes, _⟩
    · exact ⟨row', next, same⟩
    · obtain rfl := Option.some.inj (he.symm.trans he')
      have may := mayCall_of_getElem? he
      rw [mine, own] at may
      rcases removes with hc | hc
      · obtain ⟨_, _, ⟨⟩, -⟩ := (hc ▸ may).release
      · obtain ⟨_, ⟨⟩⟩ := (hc ▸ may).revoke
  · intro v hv
    obtain ⟨o, rfl, requests⟩ := requests_of_result? own hv
    refine ⟨o, rfl, leaves_of_requests requests, ?_⟩
    rintro lost fresh n key row held rfl
    obtain ⟨m, i', -, inserts, -⟩ := exists_inserts held
    obtain rfl := fresh i' (madeId_of_inserts inserts)
    exact Store.not_inserts (requests.not_inserts lost) inserts

end Sessions

end LockRegistry

namespace LockRegistry.Sessions

attribute [local instance] Regex.runner

def standoffKey : LockKey := ⟨"OSL", "fence", "editor"⟩

def standoffRequest : LockRequest := LockRequest.revoking { key := standoffKey } 60

def standoff : Fin 3 → Operation
  | 0 => .allow "osl" "*" "*" "*" "adm"
  | 1 => .request ⟨250, 10⟩ { key := standoffKey } none "a"
  | 2 => .request ⟨250, 10⟩ standoffRequest (some " adm ") "b"

def standoffTurns : List (Turn (Fin 3)) :=
  ([0, 0, 1, 1, 2, 2, 2, 2, 2, 2, 2, 2, 2] : List (Fin 3)).map
    fun i => { session := i, now := .ofNanos 0, fired := true }

theorem request_footprint_standoff :
    ((start standoff).run standoffTurns).result? 2 = some (.error .cancelled) ∧
      (∀ m, ¬ Puts ((start standoff).journal standoffTurns) 2 m standoffRequest "b") ∧
      ∀ n key row, Store.empty.lockAt ((start standoff).journal standoffTurns) n key = some row →
        row.lockId ≠ "b" := by
  obtain ⟨-, -, -, -, ends, -⟩ := request_footprint standoff standoffTurns (i := 2) rfl
  have gaveUp : ((start standoff).run standoffTurns).result? 2 = some (.error .cancelled) := rfl
  obtain ⟨o, ho, leaves, clean⟩ := ends _ gaveUp
  cases o with
  | ok => cases ho
  | error e =>
    cases ho
    exact ⟨gaveUp, leaves.1, clean (fun _ => nofun) (by decide)⟩

end LockRegistry.Sessions
