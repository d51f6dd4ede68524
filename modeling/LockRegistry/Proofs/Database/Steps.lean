import LockRegistry.Proofs.Database.Answers
import LockRegistry.Proofs.Store.Effects

/-! Tables with the rows of a store keep them through every call. Only the ids of grants differ: a
statement that refreshes a grant uses up a number. -/

namespace LockRegistry

def Call.renumber (ρ : Int → Int) : (c : Call) → c.Reply → c.Reply
  | .upsertGrant _ => Grant.renumbered ρ
  | .grantsOf _ => List.map (Grant.renumbered ρ)
  | .listGrants _ => List.map (Grant.renumbered ρ)
  | _ => id

namespace Database

def Tables.ask (t : Tables) (now : Timestamp) (c : Call) : Except DatabaseError c.Reply × Tables :=
  ((t.answer now (.ofCall c)).1 >>= fun r => r.reply c, (t.answer now (.ofCall c)).2)

-- The rows may be in any order, and the grants may have other ids.
structure Represents (ρ : Int → Int) (s : Store) (t : Tables) : Prop where
  locks : t.locks.Perm (s.locks.values.map .ofLock)
  grants : t.grants.Perm (s.grants.values.map fun g => .ofGrant (g.renumbered ρ))
  numbering : ∀ m n, m < n → ρ m < ρ n
  -- how grants to come will be numbered, as long as none is refreshed
  ahead : ∀ n, s.lastGrantId < n → ρ n = n + (t.lastId - s.lastGrantId)

lemma texts_lt {a b : Grant} (same : a.user = b.user) (before : compare a.key b.key = .lt) :
    compare ((Row.ofGrant a).texts [.office, .projectMask, .applicationMask])
      ((Row.ofGrant b).texts [.office, .projectMask, .applicationMask]) = .lt := by
  have keys : compare [a.office, a.user, a.projectMask, a.applicationMask]
    [b.office, b.user, b.projectMask, b.applicationMask] = .lt := before
  show compare [a.office, a.projectMask, a.applicationMask]
    [b.office, b.projectMask, b.applicationMask] = .lt
  rw [same] at keys
  simp only [List.compare_cons_cons, Std.ReflCmp.compare_self, Ordering.then_eq_lt] at keys ⊢
  simpa using keys

variable [Regex.Engine]

structure Refines (ρ : Int → Int) (s : Store) (t : Tables) (now : Timestamp) (c : Call) : Prop where
  reply : (t.ask now c).1 = .ok (c.renumber ρ (s.apply now c).1)
  tables : Represents ρ (s.apply now c).2 (t.ask now c).2

def skip (ρ : Int → Int) (last : Int) : Int → Int := fun n => if n ≤ last then ρ n else ρ n + 1

omit [Regex.Engine] in
lemma skip_of_le {ρ : Int → Int} {last n : Int} (h : n ≤ last) : skip ρ last n = ρ n := if_pos h

omit [Regex.Engine] in
lemma skip_lt {ρ : Int → Int} (h : ∀ m n, m < n → ρ m < ρ n) (last m n : Int) (before : m < n) :
    skip ρ last m < skip ρ last n := by
  have mono := h m n before
  simp only [skip]
  split <;> split <;> omega

def Admits (s : Store) (c : Call) : Prop :=
  ∀ l, c = .insertLock l → isLockId l.lockId = true ∧
    ∀ key row, s.locks.find? key = some row → row.lockId ≠ l.lockId

variable {ρ : Int → Int} {s s' : Store} {t t' : Tables} {now : Timestamp} {c : Call} {r : ResultSet}

lemma Admits.kept (h : Admits s c) (kept : s.Kept) (now : Timestamp) : (s.apply now c).2.Kept :=
  kept.apply now fun l hc => (h l hc).1

lemma Admits.namedOnce (h : Admits s c) (once : s.NamedOnce) (now : Timestamp) :
    (s.apply now c).2.NamedOnce :=
  once.apply now fun l hc key row held same => absurd same ((h l hc).2 key row held)

lemma Refines.of_answer (answered : t.answer now (.ofCall c) = (.ok r, t'))
    (reply : r.reply c = .ok (c.renumber ρ (s.apply now c).1))
    (tables : Represents ρ (s.apply now c).2 t') : Refines ρ s t now c := by
  have asked : t.ask now c = (r.reply c, t') := by
    rw [Tables.ask, answered]
    rfl
  exact ⟨by rw [asked, reply], by rwa [asked]⟩

namespace Represents

omit [Regex.Engine] in
lemma withLocks {rows : List Row} (h : Represents ρ s t) (grants : s'.grants = s.grants)
    (last : s'.lastGrantId = s.lastGrantId)
    (locks : rows.Perm (s'.locks.values.map .ofLock)) :
    Represents ρ s' { t with locks := rows } := by
  refine ⟨locks, ?_, h.numbering, ?_⟩
  · rw [grants]
    exact h.grants
  · rw [last]
    exact h.ahead

lemma findLock (h : Represents ρ s t) (kept : s.Kept) (key : LockKey) :
    Refines ρ s t now (.findLock key) where
  reply :=
    have chosen := Tables.select_once (r := .locks) h.locks (satisfies_onKey · key)
      (kept.locks_keyedBy.values_filter_own key)
    (congrArg ResultSet.firstLock? chosen).trans (firstLock?_result _)
  tables := h

lemma findLockNamed (h : Represents ρ s t) (kept : s.Kept) (once : s.NamedOnce)
    (office lockId : String) : Refines ρ s t now (.findLockNamed office lockId) where
  reply :=
    have chosen := Tables.select_once (r := .locks) h.locks (satisfies_named · office lockId)
      (Store.values_filter_isNamed kept once office lockId)
    (congrArg ResultSet.firstLock? chosen).trans (firstLock?_result _)
  tables := h

lemma lockExists (h : Represents ρ s t) (kept : s.Kept) (key : LockKey) :
    Refines ρ s t now (.lockExists key) where
  reply := by
    have held := any_perm (·.satisfies (.ofCall (.lockExists key)) Query.onKey) h.locks
      (satisfies_onKey · key)
    rw [← kept.locks_keyedBy.contains_eq] at held
    exact congrArg Except.ok held
  tables := h

lemma listLocks (h : Represents ρ s t) (kept : s.Kept) (f : CatalogFilter) :
    Refines ρ s t now (.listLocks f) where
  reply := by
    have chosen := Tables.select_eq (r := .locks) (q := .ofCall (.listLocks f))
      Relation.locks.key h.locks (satisfies_filter_lock · f)
      (List.pairwise_map.2 (kept.locks_keyedBy.values_ordered.filter _))
    exact (congrArg (·.records.mapM Record.lock) chosen).trans (locks_result _)
  tables := h

lemma deleteLock (h : Represents ρ s t) (kept : s.Kept) (key : LockKey) :
    Refines ρ s t now (.deleteLock key) := by
  obtain ⟨rest, deleted, spared⟩ := Tables.delete_once (r := .locks)
    (q := .ofCall (.deleteLock key)) h.locks (satisfies_onKey · key)
    (kept.locks_keyedBy.values_filter_own key)
  refine .of_answer deleted (firstLock?_result _) (h.withLocks rfl rfl ?_)
  exact spared.trans (.of_eq (congrArg _ (kept.locks_keyedBy.values_erase key).symm))

lemma deleteLockNamed (h : Represents ρ s t) (kept : s.Kept) (once : s.NamedOnce)
    (office lockId : String) : Refines ρ s t now (.deleteLockNamed office lockId) := by
  obtain ⟨rest, deleted, spared⟩ := Tables.delete_count (r := .locks)
    (q := .ofCall (.deleteLockNamed office lockId)) h.locks (satisfies_named · office lockId)
  obtain ⟨reply, values⟩ := Store.deleteLockNamed_eq kept once office lockId
  rw [← values] at spared
  refine .of_answer deleted (congrArg Except.ok reply.symm) (h.withLocks ?_ ?_ spared)
  all_goals
    rw [Store.apply, Store.deleteLockNamed]
    split <;> rfl

lemma markRevocation (h : Represents ρ s t) (kept : s.Kept) (key : LockKey)
    (lockId user : String) : Refines ρ s t now (.markRevocation key lockId user) := by
  obtain ⟨rows, updated, marked⟩ := Tables.update_eq (r := .locks)
    (q := .ofCall (.markRevocation key lockId user)) (fun l : Lock => l.stamped user now) h.locks
    (satisfies_markRevocation · key lockId user) (fun _ => assign_stamp key lockId user _)
    fun l mem => brokenCheck?_ofLock (l := l.stamped user now) (kept.isLockId (l := l) mem) rfl
  obtain ⟨reply, values⟩ := Store.markRevocation_eq kept now key lockId user
  have others := s.sameBut_markRevocation now key lockId user
  rw [← values] at marked
  exact .of_answer updated (congrArg Except.ok reply.symm)
    (h.withLocks others.grants others.lastGrantId marked)

lemma refusesLock (h : Represents ρ s t) (kept : s.Kept) {l : NewLock}
    (valid : isLockId l.lockId = true) (held : s.locks.contains l.key = true) :
    Refines ρ s t now (.insertLock l) := by
  have there := (kept.locks_keyedBy.contains_eq l.key).symm.trans held
  have idle : s.apply now (.insertLock l) = _ := Store.insertLock_of_held held now
  refine .of_answer (Tables.insert_nothing (r := .locks) (complete_lock t now l)
    (brokenCheck?_ofLock (l := l.toLock now) valid rfl) h.locks (agrees_newLock · l) there) ?_ ?_
  · rw [idle]
    rfl
  · rwa [idle]

lemma insertsLock (h : Represents ρ s t) (kept : s.Kept) {l : NewLock}
    (admits : Admits s (.insertLock l)) (free : s.locks.contains l.key = false) :
    Refines ρ s t now (.insertLock l) := by
  obtain ⟨valid, fresh⟩ := admits l rfl
  have absent := (kept.locks_keyedBy.contains_eq l.key).symm.trans free
  have unnamed (row : Lock) (mem : row ∈ s.locks.values) :
      (Row.ofLock row).agrees (.ofLock (l.toLock now)) [Relation.locks.primaryKey.1] = false :=
    agrees_lockId.trans (beq_eq_false_iff_ne.2
      (fresh row.key row (kept.locks_keyedBy.find?_own mem)))
  have made : s.apply now (.insertLock l) = _ := Store.insertLock_of_free free now
  obtain ⟨rows, inserted, rest⟩ := Tables.insert_new (r := .locks) .nothing (complete_lock t now l)
    (brokenCheck?_ofLock (l := l.toLock now) valid rfl) h.locks (agrees_newLock · l) absent unnamed
  refine .of_answer inserted ?_ ?_
  · rw [made]
    exact firstLock?_result (some (l.toLock now))
  · rw [made]
    have values := Table.values_insert (r := l.toLock now) (Table.find?_eq_none_of_contains free)
    exact h.withLocks rfl rfl (rest.trans (values.map Row.ofLock).symm)

omit [Regex.Engine] in
lemma withGrants {rows : List Row} (h : Represents ρ s t) {grants : Table GrantKey Grant}
    (same : rows.Perm (grants.values.map fun g => .ofGrant (g.renumbered ρ))) :
    Represents ρ { s with grants := grants } { t with grants := rows } :=
  ⟨h.locks, same, h.numbering, h.ahead⟩

lemma deleteGrant (h : Represents ρ s t) (kept : s.Kept) (key : GrantKey) :
    Refines ρ s t now (.deleteGrant key) := by
  obtain ⟨rest, deleted, spared⟩ := Tables.delete_count (r := .grants)
    (q := .ofCall (.deleteGrant key)) h.grants
    (fun g => satisfies_grantKey (g.renumbered ρ) key)
  refine .of_answer deleted ?_ (h.withGrants ?_)
  · exact congrArg Except.ok (kept.grants_keyedBy.contains_eq_decide key).symm
  · rw [kept.grants_keyedBy.values_erase]
    exact spared

lemma deleteGrants (h : Represents ρ s t) (office : String)
    (officeMask applicationMask : Mask) (user : String) :
    Refines ρ s t now (.deleteGrants office officeMask applicationMask user) := by
  obtain ⟨rest, deleted, spared⟩ := Tables.delete_count (r := .grants)
    (q := .ofCall (.deleteGrants office officeMask applicationMask user)) h.grants
    (fun g => satisfies_deleteGrants (g.renumbered ρ) office officeMask applicationMask user)
  obtain ⟨count, values⟩ := s.deleteGrants_eq office officeMask applicationMask user
  refine .of_answer deleted (congrArg Except.ok count.symm) (h.withGrants ?_)
  exact spared.trans (.of_eq (congrArg _ values.symm))

lemma grantsOf (h : Represents ρ s t) (kept : s.Kept) (user : String) :
    Refines ρ s t now (.grantsOf user) where
  reply := by
    have before : ((s.grants.values.filter (·.user == user)).Pairwise fun a b =>
      compare ((Row.ofGrant a).texts [.office, .projectMask, .applicationMask])
        ((Row.ofGrant b).texts [.office, .projectMask, .applicationMask]) = .lt) :=
      (kept.grants_keyedBy.values_ordered.filter _).imp_of_mem fun memA memB =>
        texts_lt ((eq_of_beq (List.mem_filter.1 memA).2).trans
          (eq_of_beq (List.mem_filter.1 memB).2).symm)
    have chosen := Tables.select_eq (r := .grants) (q := .ofCall (.grantsOf user))
      [.office, .projectMask, .applicationMask] h.grants
      (fun g => satisfies_user (g.renumbered ρ) user) (List.pairwise_map.2 before)
    exact (congrArg (·.records.mapM Record.grant) chosen).trans (grants_result _ ρ)
  tables := h

lemma listGrants (h : Represents ρ s t) (kept : s.Kept) (f : CatalogFilter) :
    Refines ρ s t now (.listGrants f) where
  reply := by
    have chosen := Tables.select_eq (r := .grants) (q := .ofCall (.listGrants f))
      Relation.grants.key h.grants (fun g => satisfies_filter_grant (g.renumbered ρ) f)
      (List.pairwise_map.2 (kept.grants_keyedBy.values_ordered.filter _))
    exact (congrArg (·.records.mapM Record.grant) chosen).trans (grants_result _ ρ)
  tables := h

omit [Regex.Engine] in
lemma next (h : Represents ρ s t) : ρ (s.lastGrantId + 1) = t.lastId + 1 := by
  rw [h.ahead _ (Int.lt_add_one_of_le (Int.le_refl _))]
  omega

lemma makesGrant (h : Represents ρ s t) (kept : s.Kept) {g : NewGrant}
    (free : s.grants.find? g.key = none) : Refines ρ s t now (.upsertGrant g) := by
  have numbered : g.toGrant (t.lastId + 1) now =
      (g.toGrant (s.lastGrantId + 1) now).renumbered ρ := by
    rw [Grant.renumbered, ← h.next]
    rfl
  have completed := complete_grant t now g
  rw [numbered] at completed
  have absent := kept.grants_keyedBy.contains_eq g.key
  rw [Table.contains_eq_isSome, free] at absent
  have unnumbered (a : Grant) (mem : a ∈ s.grants.values) : (Row.ofGrant (a.renumbered ρ)).agrees
      (.ofGrant ((g.toGrant (s.lastGrantId + 1) now).renumbered ρ))
      [Relation.grants.primaryKey.1] = false :=
    agrees_grantId.trans (beq_eq_false_iff_ne.2
      (Int.ne_of_lt (h.numbering _ _ (Int.lt_add_one_of_le (kept.id_le mem)))))
  have made : s.apply now (.upsertGrant g) = _ := Store.upsertGrant_of_free free now
  obtain ⟨rows, inserted, rest⟩ := Tables.insert_new (r := .grants)
    (f := fun a : Grant => .ofGrant (a.renumbered ρ))
    (.update [⟨.officeMask, .proposed⟩, ⟨.updatedAt, .now⟩]) completed rfl h.grants
    (fun a => agrees_newGrant ρ a g _) absent.symm unnumbered
  refine .of_answer inserted ?_ ?_
  · rw [made]
    exact first_result _
  · rw [made]
    refine ⟨h.locks, ?_, h.numbering, fun n later => ?_⟩
    · exact rest.trans ((Table.values_insert free).map fun a => Row.ofGrant (a.renumbered ρ)).symm
    · have ahead := h.ahead n (Int.lt_trans (Int.lt_add_one_of_le (Int.le_refl _)) later)
      simp only [Tables.withRows]
      omega

lemma refreshesGrant (h : Represents ρ s t) (kept : s.Kept) {g : NewGrant} {old : Grant}
    (held : s.grants.find? g.key = some old) :
    Refines (skip ρ s.lastGrantId) s t now (.upsertGrant g) := by
  have there := kept.grants_keyedBy.contains_eq g.key
  rw [Table.contains_eq_isSome, held] at there
  have refreshed : s.apply now (.upsertGrant g) = _ := Store.upsertGrant_of_held held now
  have kept' := kept.refreshed held now
  have values := Store.values_refresh kept held now
  have found := Table.find?_insert_self s.grants g.key (old.refreshed g.officeMask now)
  have once := kept'.grants_keyedBy.values_filter_own g.key
  rw [found, values] at once
  obtain ⟨rows, inserted, rest⟩ := Tables.insert_update (r := .grants)
    (fun a : Grant => a.refreshed g.officeMask now) (complete_grant t now g) rfl h.grants
    (fun a => agrees_newGrant ρ a g _) there.symm (fun _ => assign_refresh _) once
  rw [← values] at rest
  -- no grant that is there gets another number
  have same (a : Grant)
      (mem : a ∈ (s.grants.insert g.key (old.refreshed g.officeMask now)).values) :
      a.renumbered (skip ρ s.lastGrantId) = a.renumbered ρ :=
    Grant.renumbered_congr (skip_of_le (kept'.id_le mem))
  refine .of_answer inserted ?_ ?_
  · rw [refreshed, ← same _ (Table.mem_values_iff.2 ⟨g.key, found⟩)]
    exact first_result _
  · rw [refreshed]
    refine ⟨h.locks, ?_, skip_lt h.numbering _, fun n later => ?_⟩
    · exact rest.trans (.of_eq (List.map_congr_left fun a mem => congrArg _ (same a mem).symm))
    · have ahead := h.ahead n later
      simp only [skip, Tables.withRows, if_neg (Int.not_le.2 later)]
      omega

lemma refines (h : Represents ρ s t) (kept : s.Kept) (once : s.NamedOnce) (admits : Admits s c)
    (now : Timestamp) : ∃ ρ', (∀ n ≤ s.lastGrantId, ρ' n = ρ n) ∧ Refines ρ' s t now c := by
  have unchanged (refined : Refines ρ s t now c) :
      ∃ ρ', (∀ n ≤ s.lastGrantId, ρ' n = ρ n) ∧ Refines ρ' s t now c :=
    ⟨ρ, fun _ _ => rfl, refined⟩
  cases c with
  | insertLock l =>
    cases held : s.locks.contains l.key with
    | true => exact unchanged (h.refusesLock kept (admits l rfl).1 held)
    | false => exact unchanged (h.insertsLock kept admits held)
  | deleteLockNamed office lockId => exact unchanged (h.deleteLockNamed kept once office lockId)
  | markRevocation key lockId user => exact unchanged (h.markRevocation kept key lockId user)
  | deleteLock key => exact unchanged (h.deleteLock kept key)
  | findLock key => exact unchanged (h.findLock kept key)
  | findLockNamed office lockId => exact unchanged (h.findLockNamed kept once office lockId)
  | lockExists key => exact unchanged (h.lockExists kept key)
  | listLocks f => exact unchanged (h.listLocks kept f)
  | upsertGrant g =>
    cases held : s.grants.find? g.key with
    | none => exact unchanged (h.makesGrant kept held)
    | some old => exact ⟨_, fun _ => skip_of_le, h.refreshesGrant kept held⟩
  | deleteGrant key => exact unchanged (h.deleteGrant kept key)
  | deleteGrants office officeMask applicationMask user =>
    exact unchanged (h.deleteGrants office officeMask applicationMask user)
  | grantsOf user => exact unchanged (h.grantsOf kept user)
  | listGrants f => exact unchanged (h.listGrants kept f)

end Represents

end Database

end LockRegistry
