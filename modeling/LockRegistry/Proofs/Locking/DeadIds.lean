import LockRegistry.Proofs.Locking.Footprint
import LockRegistry.Proofs.Sessions.Progress
import LockRegistry.Regex.Runner

/-! The id of a lock that was taken off its key names nothing from then on. -/

namespace LockRegistry

namespace Store

variable {s : Store} {lockId : String}

lemma lockNamed?_eq_none (absent : ∀ key l, s.locks.find? key = some l → l.lockId ≠ lockId)
    (office : String) : s.lockNamed? office lockId = none := by
  cases h : s.lockNamed? office lockId with
  | none => rfl
  | some row =>
    obtain ⟨held, named⟩ := find?_of_lockNamed? h
    simp only [Lock.isNamed, Bool.and_eq_true, beq_iff_eq] at named
    exact absurd named.2 (absent row.1 row.2 held)

lemma deleteLockNamed_of_absent
    (absent : ∀ key l, s.locks.find? key = some l → l.lockId ≠ lockId) (office : String) :
    s.deleteLockNamed office lockId = (false, s) := by
  rw [deleteLockNamed, lockNamed?_eq_none absent]

lemma markRevocation_of_absent
    (absent : ∀ key l, s.locks.find? key = some l → l.lockId ≠ lockId) (now : Timestamp)
    (key : LockKey) (user : String) : s.markRevocation now key lockId user = (false, s) := by
  unfold markRevocation
  split
  · rename_i l held
    rw [if_neg (absent key l held)]
  · rfl

end Store

variable [Regex.Engine]

lemma Entry.released {ι : Type} {s : Store} {e : Entry ι} {office lockId : String}
    (h : ⟨.deleteLockNamed office lockId, true⟩ = e.exchange s) :
    e.call = .deleteLockNamed office lockId ∧
      ∃ key row, s.lockNamed? office lockId = some (key, row) := by
  obtain ⟨hc, released⟩ := answered h
  simp only [Store.apply, Store.deleteLockNamed] at released
  split at released
  · rename_i key row named
    exact ⟨hc, key, row, named⟩
  · cases released

def Op.CallsOnce {α : Type} (x : Op α) (c : Call) (f : c.Reply → α) (turns : Nat) : Prop :=
  ∃ next, x = .call c next ∧ ∀ a, (next (.ok a)).EndsWithin turns ∧
    ∀ l r, (next (.ok a)).Makes l r → l = [] ∧ r = .ok (f a)

namespace Operation

variable {office lockId o : String}

lemma release_callsOnce (normal : Field.office.normalize office = .ok o)
    (full : Text.trim lockId ≠ "") :
    (release office lockId).op.CallsOnce (.deleteLockNamed o (Text.trim lockId)) Value.flag 1 := by
  have logs : ∃ next : Except DatabaseError Bool → Op Value,
      (release office lockId).op = .call (.deleteLockNamed o (Text.trim lockId)) next ∧
        ∀ released, ∃ event, next (.ok released) = .log event (.done (.ok (.flag released))) := by
    simp only [op, Locking.release, normal, Op.check_ok_bind, String.isEmpty_iff, full, if_false]
    exact ⟨_, rfl, fun released => by cases released <;> exact ⟨_, rfl⟩⟩
  obtain ⟨next, same, logs⟩ := logs
  refine ⟨next, same, fun released => ?_⟩
  obtain ⟨event, logs⟩ := logs released
  rw [logs]
  exact ⟨Op.endsWithin_log (.done rfl), fun l r makes => Op.makes_done.1 (Op.makes_log.1 makes)⟩

lemma find_callsOnce (normal : Field.office.normalize office = .ok o) :
    (find office lockId).op.CallsOnce (.findLockNamed o (Text.trim lockId)) Value.lock 0 := by
  simp only [op, Locking.find, normal, Op.check_ok_bind]
  exact ⟨_, rfl, fun lock => ⟨.done rfl, fun l r makes => Op.makes_done.1 makes⟩⟩

lemma pendingRevocation_callsOnce (normal : Field.office.normalize office = .ok o) :
    (pendingRevocation office lockId).op.CallsOnce (.findLockNamed o (Text.trim lockId))
      (fun (lock : Option Lock) => .revocation (lock.bind (·.pendingRevocation))) 0 := by
  simp only [op, Locking.pendingRevocation, Locking.find, normal, Op.check_ok_bind]
  exact ⟨_, rfl, fun lock => ⟨.done rfl, fun l r makes => Op.makes_done.1 makes⟩⟩

end Operation

namespace Sessions

section Journal

variable {ι : Type} (j : List (Entry ι)) (d : Nat)

def TakesOff (i : ι) (key : LockKey) (lockId : String) : Prop :=
  ∃ e row, j[d]? = some e ∧ e.session = i ∧ Store.empty.lockAt j d key = some row ∧
    row.lockId = lockId ∧ Store.empty.lockAt j (d + 1) key = none

def Later (i : ι) : Prop := ∀ n e, j[n]? = some e → e.session = i → d < n

variable {j d}

lemma TakesOff.deletes {i : ι} {key : LockKey} {lockId : String} (h : TakesOff j d i key lockId) :
    Store.empty.Deletes j d key := by
  obtain ⟨e, row, -, -, held, -, free⟩ := h
  rcases Store.lockAt_succ_of_held held with ⟨_, next, -⟩ | deletes
  · cases free.symm.trans next
  · exact deletes

lemma TakesOff.of_released {e : Entry ι} {i : ι} {office lockId : String} (he : j[d]? = some e)
    (own : e.session = i)
    (hx : ⟨.deleteLockNamed office lockId, true⟩ = e.exchange (Store.empty.instant j d)) :
    ∃ key, TakesOff j d i key lockId ∧
      Store.SameBut key (Store.empty.instant j d) (Store.empty.instant j (d + 1)) := by
  obtain ⟨hc, key, row, named⟩ := Entry.released hx
  obtain ⟨held, isNamed⟩ := Store.find?_of_lockNamed? named
  simp only [Lock.isNamed, Bool.and_eq_true, beq_iff_eq] at isNamed
  have next : Store.empty.instant j (d + 1) =
      ((Store.empty.instant j d).deleteLockNamed office lockId).2 := by
    rw [Store.instant_succ_of_getElem? he, Entry.after, hc]
    rfl
  refine ⟨key, ⟨e, row, he, own, held, isNamed.2, ?_⟩, next ▸ Store.sameBut_deleteLockNamed named⟩
  rw [Store.lockAt, next, Store.deleteLockNamed, named]
  exact Table.find?_erase_self ..

end Journal

variable {ι : Type} [DecidableEq ι] {calls : ι → Operation} {h : List (Turn ι)} {i i' : ι}
  {key key' : LockKey} {lockId office raw o : String} {d d' n : Nat} {row row' : Lock}

lemma key_unique (fresh : FreshIds calls)
    (held : Store.empty.lockAt ((start calls).journal h) n key = some row)
    (held' : Store.empty.lockAt ((start calls).journal h) n key' = some row')
    (same : row'.lockId = row.lockId) : key' = key := by
  obtain ⟨m, i, -, inserts, -⟩ := exists_inserts held
  obtain ⟨m', i', -, inserts', -⟩ := exists_inserts held'
  exact (inserts_unique fresh (same ▸ inserts') inserts).2

lemma TakesOff.absent (fresh : FreshIds calls)
    (off : TakesOff ((start calls).journal h) d i key lockId) (later : d < n)
    (held : Store.empty.lockAt ((start calls).journal h) n key' = some row) :
    row.lockId ≠ lockId := by
  rintro rfl
  obtain ⟨e, row', -, -, held', same, -⟩ := id off
  obtain ⟨m, i₁, before, inserts, -⟩ := exists_inserts held'
  obtain ⟨m', i₂, -, inserts', stays⟩ := exists_inserts held
  obtain ⟨rfl, rfl⟩ := inserts_unique fresh inserts' (same ▸ inserts)
  exact stays.not_deletes before later off.deletes

lemma TakesOff.unique (fresh : FreshIds calls)
    (off : TakesOff ((start calls).journal h) d i key lockId)
    (off' : TakesOff ((start calls).journal h) d' i' key' lockId) :
    d' = d ∧ i' = i ∧ key' = key := by
  obtain ⟨e, row, he, own, held, named, -⟩ := id off
  obtain ⟨e', row', he', own', held', named', -⟩ := id off'
  have same : d' = d := by
    rcases Nat.lt_trichotomy d' d with before | same | after
    · exact absurd named (off'.absent fresh before held)
    · exact same
    · exact absurd named' (off.absent fresh after held')
  subst same
  obtain rfl := Option.some.inj (he.symm.trans he')
  exact ⟨rfl, own'.symm.trans own, key_unique fresh held held' (named'.trans named.symm)⟩

lemma TakesOff.by (off : TakesOff ((start calls).journal h) d i key lockId) :
    (∃ office raw, calls i = .release office raw ∧ Text.trim raw = lockId) ∨
      ∃ caller, calls i = .revoke key caller := by
  obtain ⟨e, row, he, rfl, held, rfl, -⟩ := id off
  obtain ⟨e', row', he', held', removes, -⟩ := off.deletes
  obtain rfl := Option.some.inj (he.symm.trans he')
  obtain rfl := Option.some.inj (held.symm.trans held')
  have may := mayCall_of_getElem? he
  rcases removes with hc | hc
  · obtain ⟨office, raw, own, -, named⟩ := (hc ▸ may).release
    exact .inl ⟨office, raw, own, named⟩
  · exact .inr (hc ▸ may).revoke

section CallsOnce

variable {c : Call} {f : c.Reply → Value} {turns : Nat}

lemma exchanges_of_callsOnce (once : (calls i).op.CallsOnce c f turns) :
    ∃ a, exchanges i .empty ((start calls).journal h) <+: [⟨c, a⟩] := by
  obtain ⟨l, r, makes⟩ := (start calls).exists_makes h i
  obtain ⟨next, same, rest⟩ := once
  simp only [start, same] at makes
  obtain ⟨a, l', split, makes'⟩ := Op.makes_call.1 makes
  obtain ⟨rfl, -⟩ := (rest a).2 l' r makes'
  exact ⟨a, l, split⟩

lemma call_of_callsOnce (once : (calls i).op.CallsOnce c f turns) {e : Entry ι}
    (he : ((start calls).journal h)[n]? = some e) (mine : e.session = i) : e.call = c := by
  obtain ⟨a, only⟩ := exchanges_of_callsOnce (h := h) once
  have mem := only.subset (exchange_mem .empty he mine)
  exact congrArg Exchange.call (List.mem_singleton.1 mem)

lemma returns_of_callsOnce (once : (calls i).op.CallsOnce c f turns) {r : Except LockError Value}
    (hr : ((start calls).run h).result? i = some r) :
    ∃ n now, ((start calls).journal h)[n]? = some ⟨i, now, c⟩ ∧
      r = .ok (f ((Store.empty.instant ((start calls).journal h) n).apply now c).1) := by
  have makes := makes_of_result? hr
  obtain ⟨next, same, rest⟩ := once
  simp only [start, same] at makes
  obtain ⟨a, l, split, makes'⟩ := Op.makes_call.1 makes
  obtain ⟨n, e, he, own, hx, -⟩ := exchanges_split (l := []) split
  obtain ⟨-, rfl⟩ := Entry.answered hx
  exact ⟨n, e.now, Entry.eq_of_exchange own hx ▸ he, ((rest _).2 l r makes').2⟩

end CallsOnce

def Answers (calls : ι → Operation) (h : List (Turn ι)) (i : ι) (turns : Nat) (v : Value) : Prop :=
  Idle ((start calls).journal h) i ∧
    (∀ r, ((start calls).run h).result? i = some r → r = .ok v) ∧
    (turns ≤ h.countP (·.session = i) → ((start calls).run h).result? i = some (.ok v))

lemma answers_of_callsOnce {c : Call} {f : c.Reply → Value} {turns : Nat} (answer : c.Reply)
    (once : (calls i).op.CallsOnce c f turns) (later : Later ((start calls).journal h) d i)
    (dead : ∀ n now, d < n → (Store.empty.instant ((start calls).journal h) n).apply now c =
      (answer, Store.empty.instant ((start calls).journal h) n)) :
    Answers calls h i (turns + 1) (f answer) := by
  have idle : Idle ((start calls).journal h) i := by
    intro n e he mine
    rw [Store.instant_succ_of_getElem? he, Entry.after, call_of_callsOnce once he mine,
      dead n e.now (later n e he mine)]
  have right (r : Except LockError Value) (hr : ((start calls).run h).result? i = some r) :
      r = .ok (f answer) := by
    obtain ⟨n, now, he, rfl⟩ := returns_of_callsOnce once hr
    rw [dead n now (later n _ he rfl)]
  refine ⟨idle, right, fun enough => ?_⟩
  have ends : ((start calls).op i).EndsWithin (turns + 1) := by
    obtain ⟨next, same, rest⟩ := once
    simp only [start, same]
    exact Op.endsWithin_call fun a => (rest a).1
  obtain ⟨r, hr⟩ := exists_result? ends enough
  rw [hr, right r hr]

-- An id that is made is never empty; a release of the empty id is refused as an error, and so left
-- out.
structure Dead (calls : ι → Operation) (h : List (Turn ι)) (d : Nat) (lockId : String) : Prop where
  absent : ∀ n key row, d < n → Store.empty.lockAt ((start calls).journal h) n key = some row →
    row.lockId ≠ lockId
  release : ∀ i office raw o, calls i = .release office raw →
    Field.office.normalize office = .ok o → Text.trim raw = lockId → lockId ≠ "" →
      Later ((start calls).journal h) d i → Answers calls h i 2 (.flag false)
  find : ∀ i office raw o, calls i = .find office raw →
    Field.office.normalize office = .ok o → Text.trim raw = lockId →
      Later ((start calls).journal h) d i → Answers calls h i 1 (.lock none)
  pendingRevocation : ∀ i office raw o, calls i = .pendingRevocation office raw →
    Field.office.normalize office = .ok o → Text.trim raw = lockId →
      Later ((start calls).journal h) d i → Answers calls h i 1 (.revocation none)
  markRevocation : ∀ n now key user, d < n →
    (Store.empty.instant ((start calls).journal h) n).markRevocation now key lockId user =
      (false, Store.empty.instant ((start calls).journal h) n)

lemma dead_of_absent
    (absent : ∀ n key row, d < n → Store.empty.lockAt ((start calls).journal h) n key = some row →
      row.lockId ≠ lockId) : Dead calls h d lockId where
  absent := absent
  release i office raw o own normal named full later := by
    subst named
    refine answers_of_callsOnce false (own ▸ Operation.release_callsOnce normal full) later
      fun n _ after => ?_
    exact Store.deleteLockNamed_of_absent (absent n · · after) o
  find i office raw o own normal named later := by
    subst named
    refine answers_of_callsOnce none (own ▸ Operation.find_callsOnce normal) later
      fun n _ after => ?_
    rw [Store.apply, Store.lockNamed?_eq_none (absent n · · after) o]
    rfl
  pendingRevocation i office raw o own normal named later := by
    subst named
    refine answers_of_callsOnce none (own ▸ Operation.pendingRevocation_callsOnce normal) later
      fun n _ after => ?_
    rw [Store.apply, Store.lockNamed?_eq_none (absent n · · after) o]
    rfl
  markRevocation n now key user after :=
    Store.markRevocation_of_absent (absent n · · after) now key user

def TakesOnly (calls : ι → Operation) (h : List (Turn ι)) (d : Nat) (i : ι) (key : LockKey)
    (lockId : String) : Prop :=
  TakesOff ((start calls).journal h) d i key lockId ∧
    (∀ key' row, Store.empty.lockAt ((start calls).journal h) d key' = some row →
      row.lockId = lockId → key' = key) ∧
    Store.SameBut key (Store.empty.instant ((start calls).journal h) d)
      (Store.empty.instant ((start calls).journal h) (d + 1)) ∧
    ∀ n e, ((start calls).journal h)[n]? = some e → e.session = i → n = d

lemma makes_of_flag {x : Op Bool} {b : Bool} (op : (calls i).op = .flag <$> x)
    (hr : ((start calls).run h).result? i = some (.ok (.flag b))) :
    x.Makes (exchanges i .empty ((start calls).journal h)) (.ok b) := by
  obtain ⟨r, same, makes⟩ := makes_of_map op hr
  obtain ⟨_, rfl, ⟨⟩⟩ := map_eq_ok.1 same.symm
  exact makes

lemma takesOnly_of_released (fresh : FreshIds calls) (own : calls i = .release office raw)
    (done : ((start calls).run h).result? i = some (.ok (.flag true))) :
    ∃ d key, TakesOnly calls h d i key (Text.trim raw) := by
  have makes := makes_of_flag (congrArg Operation.op own) done
  generalize hl : exchanges i .empty ((start calls).journal h) = l at makes
  cases Locking.release_makes makes with
  | @asked o normal =>
    obtain ⟨d, e, he, mine, hx, -⟩ := exchanges_split (l := []) hl
    obtain ⟨key, off, rest⟩ := TakesOff.of_released he mine hx
    refine ⟨d, key, off, fun key' row' held' same => ?_, rest, fun n e' he' mine' => ?_⟩
    · obtain ⟨_, row, -, -, held, named, -⟩ := off
      exact key_unique fresh held held' (same.trans named.symm)
    · have once : (exchanges i .empty ((start calls).journal h)).countP (fun _ => true) ≤ 1 := by
        rw [hl]
        exact Nat.le_refl 1
      exact exchanges_unique once he' he mine' mine rfl rfl

lemma takesOff_of_revoked {caller : Option String} (own : calls i = .revoke key caller)
    (done : ((start calls).run h).result? i = some (.ok (.flag true))) :
    ∃ d lockId, TakesOff ((start calls).journal h) d i key lockId := by
  have makes := makes_of_flag (congrArg Operation.op own) done
  generalize hl : exchanges i .empty ((start calls).journal h) = l at makes
  generalize hr : Except.ok true = r at makes
  cases Locking.revoke_makes makes with
  | allowed asks removed =>
    obtain ⟨d, e, he, own, hx, -⟩ := exchanges_split hl
    obtain ⟨hc, rfl⟩ := Entry.answered hx
    obtain ⟨row, held⟩ := Option.isSome_iff_exists.1 (Except.ok.inj hr).symm
    refine ⟨d, row.lockId, e, row, he, own, held, rfl, ?_⟩
    rw [Store.lockAt, Store.instant_succ_of_getElem? he, Entry.after, hc]
    exact Table.find?_erase_self ..
  | _ => cases hr

/-- A lock goes once and for all, however sessions take turns, if no id is made twice. -/
theorem removal_final (calls : ι → Operation) (fresh : FreshIds calls) (h : List (Turn ι)) :
    let j := (start calls).journal h
    (∀ i office raw, calls i = .release office raw →
      ((start calls).run h).result? i = some (.ok (.flag true)) →
        ∃ d key, TakesOnly calls h d i key (Text.trim raw)) ∧
    (∀ i key caller, calls i = .revoke key caller →
      ((start calls).run h).result? i = some (.ok (.flag true)) →
        ∃ d lockId, TakesOff j d i key lockId) ∧
    (∀ d i key lockId, TakesOff j d i key lockId →
      ((∃ office raw, calls i = .release office raw ∧ Text.trim raw = lockId) ∨
        ∃ caller, calls i = .revoke key caller) ∧
      (∀ d' i' key', TakesOff j d' i' key' lockId → d' = d ∧ i' = i ∧ key' = key) ∧
      Dead calls h d lockId) := by
  refine ⟨fun i office raw => takesOnly_of_released fresh,
    fun i key caller => takesOff_of_revoked, fun d i key lockId off => ?_⟩
  exact ⟨off.by, fun d' i' key' => off.unique fresh,
    dead_of_absent fun n key' row later => off.absent fresh later⟩

end Sessions

end LockRegistry

namespace LockRegistry.Sessions

attribute [local instance] Regex.runner

def relayKey : LockKey := ⟨"OSL", "fence", "editor"⟩

def relay : Fin 4 → Operation
  | 0 => .request ⟨250, 10⟩ { key := relayKey } none "a"
  | 1 => .release "osl" "a"
  | 2 => .request ⟨250, 10⟩ { key := relayKey } none "b"
  | 3 => .release " OSL" "a "

def relayTurns : List (Turn (Fin 4)) :=
  ([0, 0, 1, 1, 2, 2, 3, 3] : List (Fin 4)).map fun i => { session := i, now := .ofNanos 0 }

lemma freshIds_relay : FreshIds relay := freshIds_of_differ (by decide)

theorem removal_final_relay :
    (∃ d key, TakesOnly relay relayTurns d 1 key "a") ∧
      TakesOff ((start relay).journal relayTurns) 1 1 relayKey "a" ∧
      ((start relay).run relayTurns).result? 3 = some (.ok (.flag false)) ∧
      (Store.empty.lockAt ((start relay).journal relayTurns) 4 relayKey).map (·.lockId) =
        some "b" := by
  obtain ⟨released, -, final⟩ := removal_final relay freshIds_relay relayTurns
  have off : TakesOff ((start relay).journal relayTurns) 1 1 relayKey "a" :=
    ⟨_, _, rfl, rfl, rfl, rfl, rfl⟩
  obtain ⟨-, -, dead⟩ := final 1 1 relayKey "a" off
  have later : Later ((start relay).journal relayTurns) 1 3 := by
    intro n e he mine
    match n with
    | 0 | 1 =>
      cases he
      cases mine
    | n + 2 => omega
  obtain ⟨-, -, answers⟩ := dead.release 3 " OSL" "a " "OSL" rfl rfl rfl (by decide) later
  exact ⟨released 1 "osl" "a" rfl rfl, off, answers (by decide), rfl⟩

end LockRegistry.Sessions
