import LockRegistry.Proofs.Locking.Readmission
import LockRegistry.Proofs.Sessions.Kept
import LockRegistry.Regex.Runner

/-! What a holder is told is the last that was stamped on this very lock; what was stamped on an
earlier lock of the key went with it. -/

namespace LockRegistry

namespace Text

lemma isBlank_of_isLockIdChar {c : Char} (h : isLockIdChar c = true) : isBlank c = false := by
  by_contra blank
  rw [Bool.not_eq_false, isBlank, inRanges_iff] at blank
  obtain ⟨r, hr, low, high⟩ := blank
  simp only [isLockIdChar, Char.isDigit, Bool.or_eq_true, Bool.and_eq_true, decide_eq_true_eq,
    Char.le_def, UInt32.le_iff_toNat_le] at h
  change (48 ≤ c.toNat ∧ c.toNat ≤ 57) ∨ (97 ≤ c.toNat ∧ c.toNat ≤ 102) at h
  simp only [blankRanges, List.mem_cons, List.not_mem_nil, or_false] at hr
  rcases hr with rfl | rfl | rfl | rfl | rfl | rfl | rfl | rfl | rfl | rfl <;>
    simp only at low high <;> omega

lemma trim_lockId {lockId : String} (h : isLockId lockId = true) : trim lockId = lockId := by
  simp only [isLockId, Bool.and_eq_true, List.all_eq_true] at h
  have trimmed : Trimmed lockId.toList :=
    ⟨fun c hc => isBlank_of_isLockIdChar (h.2 c (List.mem_of_head? hc)),
      fun c hc => isBlank_of_isLockIdChar (h.2 c (List.mem_of_getLast? hc))⟩
  rw [trim, trimmed.trimList_eq, String.ofList_toList]

end Text

namespace Store

lemma lockNamed?_of_held {s : Store} {key : LockKey} {l : Lock} (once : s.NamedOnce)
    (held : s.locks.find? key = some l) : s.lockNamed? l.office l.lockId = some (key, l) := by
  cases found : s.lockNamed? l.office l.lockId with
  | none =>
    have unnamed := List.find?_eq_none.1 found (key, l) (Table.find?_eq_some_iff.1 held)
    simp [Lock.isNamed] at unnamed
  | some row =>
    obtain ⟨key', l'⟩ := row
    obtain ⟨held', named⟩ := find?_of_lockNamed? found
    simp only [Lock.isNamed, Bool.and_eq_true, beq_iff_eq] at named
    obtain rfl := once key' key l' l held' held named.2
    cases held.symm.trans held'
    rfl

section Stamps

variable [Regex.Engine] {ι : Type} (s : Store) (j : List (Entry ι))

def Stamped (g : Nat) (i : ι) (key : LockKey) (lockId : String) (p : RevocationRequest) : Prop :=
  j[g]? = some ⟨i, p.requestedAt, .markRevocation key lockId p.requestedBy⟩ ∧
    ((s.instant j g).markRevocation p.requestedAt key lockId p.requestedBy).1 = true

def LastStamp (m n : Nat) (key : LockKey) (lockId : String) : Option RevocationRequest → Prop
  | none => ∀ g i p, m ≤ g → g < n → ¬ s.Stamped j g i key lockId p
  | some p => ∃ g i, m ≤ g ∧ g < n ∧ s.Stamped j g i key lockId p ∧
      ∀ g' i' p', g < g' → g' < n → ¬ s.Stamped j g' i' key lockId p'

variable {s j} {m n g : Nat} {i : ι} {key : LockKey} {lockId : String} {p : RevocationRequest}
  {row row' : Lock}

lemma Stamped.next (h : s.Stamped j g i key row.lockId p) (held : s.lockAt j g key = some row) :
    s.lockAt j (g + 1) key = some (row.stamped p.requestedBy p.requestedAt) :=
  lockAt_stamped h.1 held

lemma LastStamp.begin (m : Nat) (key : LockKey) (lockId : String) :
    s.LastStamp j m m key lockId none :=
  fun _ _ _ after before => absurd after (Nat.not_le.2 before)

lemma LastStamp.stamp (h : s.Stamped j n i key lockId p) (before : m ≤ n) :
    s.LastStamp j m (n + 1) key lockId (some p) :=
  ⟨n, i, before, n.lt_succ_self, h, fun _ _ _ after before => by omega⟩

lemma LastStamp.keep {last : Option RevocationRequest} (h : s.LastStamp j m n key lockId last)
    (unstamped : ∀ i p, ¬ s.Stamped j n i key lockId p) :
    s.LastStamp j m (n + 1) key lockId last := by
  have later {g : Nat} {i : ι} {p : RevocationRequest} (before : g < n + 1)
      (old : g < n → ¬ s.Stamped j g i key lockId p) : ¬ s.Stamped j g i key lockId p := by
    rcases Nat.lt_or_eq_of_le (Nat.le_of_lt_succ before) with early | rfl
    · exact old early
    · exact unstamped i p
  cases last with
  | none => exact fun g i p after before => later before (h g i p after)
  | some p =>
    obtain ⟨g, i, after, before, stamped, rest⟩ := h
    exact ⟨g, i, after, before.trans n.lt_succ_self, stamped,
      fun g' i' p' after before => later before (rest g' i' p' after)⟩

lemma pendingRevocation_step (held : s.lockAt j n key = some row)
    (held' : s.lockAt j (n + 1) key = some row')
    (unstamped : ∀ i p, ¬ s.Stamped j n i key row.lockId p) :
    row'.pendingRevocation = row.pendingRevocation := by
  cases he : j[n]? with
  | none =>
    cases held.symm.trans ((lockAt_succ_of_none he key).symm.trans held')
    rfl
  | some e =>
    obtain ⟨i, now, c⟩ := e
    have step := lockAt_step (s := s) he key
    rw [held, held'] at step
    cases step with
    | kept => rfl
    | stamped _ user =>
      refine absurd ⟨he, ?_⟩ (unstamped i ⟨user, now⟩)
      rw [lockAt] at held
      simp [markRevocation, held]

lemma lastStamp_pending (inserts : s.Inserts j m i key lockId) (stays : s.Stays j (m + 1) n key)
    (before : m + 1 ≤ n) (held : s.lockAt j n key = some row) :
    s.LastStamp j (m + 1) n key row.lockId row.pendingRevocation := by
  induction n, before using Nat.le_induction generalizing row with
  | base =>
    obtain ⟨now, l, -, -, -, -, next⟩ := inserts
    cases held.symm.trans next
    exact .begin _ key _
  | succ n before ih =>
    obtain ⟨first, hf, still⟩ := id stays
    obtain ⟨row', held', same⟩ := still n before n.le_succ
    obtain ⟨_, again, same'⟩ := still (n + 1) (before.trans n.le_succ) le_rfl
    cases held.symm.trans again
    have unchanged : row'.unstamped = row.unstamped := same.trans same'.symm
    have lockId : row'.lockId = row.lockId := (congrArg Lock.lockId unchanged :)
    have last := ih (stays.mono n.le_succ) held'
    by_cases stamped : ∃ i p, s.Stamped j n i key row'.lockId p
    · obtain ⟨i, p, stamped⟩ := stamped
      cases held.symm.trans (stamped.next held')
      exact .stamp stamped before
    · have unstamped : ∀ i p, ¬ s.Stamped j n i key row'.lockId p :=
        fun i p h => stamped ⟨i, p, h⟩
      rw [pendingRevocation_step held' held unstamped, ← lockId]
      exact last.keep unstamped

end Stamps

end Store

namespace Sessions

variable [Regex.Engine] {ι : Type} [DecidableEq ι] {calls : ι → Operation} {h : List (Turn ι)}
  {f g n : Nat} {i : ι} {key : LockKey} {row lock : Lock} {lockId user : String}
  {p : RevocationRequest}

lemma namedOnce_instant (fresh : FreshIds calls) (n : Nat) :
    (Store.empty.instant ((start calls).journal h) n).NamedOnce :=
  fun _ _ _ _ held held' same => key_unique fresh held' held same

lemma valid_of_held (valid : ValidIds calls)
    (held : Store.empty.lockAt ((start calls).journal h) n key = some row) :
    isLockId row.lockId = true :=
  ((kept_instant valid n).locks key row held).named

lemma step_pendingRevocation {office raw : String} (fresh : FreshIds calls)
    (held : Store.empty.lockAt ((start calls).journal h) n key = some row)
    (normal : Field.office.normalize office = .ok row.office) (named : Text.trim raw = row.lockId)
    (turn : Turn ι) :
    (Locking.pendingRevocation office raw).step (Store.empty.instant ((start calls).journal h) n)
      turn = (.done (.ok row.pendingRevocation),
        Store.empty.instant ((start calls).journal h) n) := by
  have found := Store.lockNamed?_of_held (namedOnce_instant fresh n) held
  rw [Locking.pendingRevocation, Locking.find, normal, named]
  change (Op.done (.ok ((Option.map Prod.snd _).bind _)), _) = _
  rw [found]
  rfl

def Sanctioned (calls : ι → Operation) (h : List (Turn ι)) (g : Nat) (i : ι) (key : LockKey)
    (user : String) : Prop :=
  Field.user.IsNormal user ∧ ∃ config r raw freshId,
    calls i = .request config r (some raw) freshId ∧ r.key = key ∧
      Field.user.normalize raw = .ok user ∧ Authorized calls h g i raw key

lemma sanctioned_of_stamped (normal : NormalKeys calls)
    (stamped : Store.empty.Stamped ((start calls).journal h) g i key lockId p) :
    Sanctioned calls h g i key p.requestedBy := by
  obtain ⟨he, -⟩ := stamped
  obtain ⟨config, r, caller, freshId, own, rfl, name⟩ := (mayCall_of_getElem? he).stamp
  obtain ⟨raw, rfl, authorized⟩ :=
    authorized_of_stamp he (normal i config r caller freshId own) own rfl
  exact ⟨Field.isNormal_of_normalize name, config, r, raw, freshId, own, rfl, name, authorized⟩

lemma unstamped_of_gone (fresh : FreshIds calls) {now : Timestamp}
    (he : ((start calls).journal h)[g]? = some ⟨i, now, .markRevocation key lock.lockId user⟩)
    (found : Store.empty.lockAt ((start calls).journal h) f key = some lock) (before : f ≤ g)
    (gone : ¬ Store.empty.Stays ((start calls).journal h) f g key) :
    Store.empty.instant ((start calls).journal h) (g + 1) =
      Store.empty.instant ((start calls).journal h) g := by
  obtain ⟨d, after, hd, ⟨first, hf, still⟩, e, row, he', held, -, free⟩ :=
    (Store.stays_or_deletes found before).resolve_left gone
  cases found.symm.trans hf
  obtain ⟨row', held', same⟩ := still d after le_rfl
  cases held.symm.trans held'
  have named : row.lockId = lock.lockId := (congrArg Lock.lockId same :)
  have off : TakesOff ((start calls).journal h) d e.session key lock.lockId :=
    ⟨e, row, he', rfl, held, named, free⟩
  rw [Store.instant_succ_of_getElem? he, Entry.after, Store.apply,
    Store.markRevocation_of_absent fun _ _ held => off.absent fresh hd held]

theorem pending_latest (calls : ι → Operation) (normal : NormalKeys calls) (h : List (Turn ι)) :
    let j := (start calls).journal h
    (∀ n key row, Store.empty.lockAt j n key = some row → ∃ m i p,
      Store.empty.Inserts j m i key row.lockId ∧ m < n ∧ Store.empty.Stays j (m + 1) n key ∧
      Store.empty.LastStamp j (m + 1) n key row.lockId p ∧
      (ValidIds calls → Text.trim row.lockId = row.lockId) ∧
      (FreshIds calls → ∀ office raw, Field.office.normalize office = .ok row.office →
        Text.trim raw = row.lockId → ∀ turn : Turn ι,
          (Locking.pendingRevocation office raw).step (Store.empty.instant j n) turn =
            (.done (.ok p), Store.empty.instant j n))) ∧
    (∀ g i key lockId p, Store.empty.Stamped j g i key lockId p →
      Sanctioned calls h g i key p.requestedBy) ∧
    ∀ g i now key lockId user, j[g]? = some ⟨i, now, .markRevocation key lockId user⟩ →
      ∃ f found lock, f < g ∧ j[f]? = some ⟨i, found, .findLock key⟩ ∧
        Store.empty.lockAt j f key = some lock ∧ lock.lockId = lockId ∧
        (FreshIds calls → ¬ Store.empty.Stays j f g key →
          Store.empty.instant j (g + 1) = Store.empty.instant j g) := by
  intro j
  refine ⟨fun n key row held => ?_, fun g i key lockId p => sanctioned_of_stamped normal, ?_⟩
  · obtain ⟨m, i, before, inserts, stays⟩ := exists_inserts held
    exact ⟨m, i, row.pendingRevocation, inserts, before, stays,
      Store.lastStamp_pending inserts stays before held,
      fun valid => Text.trim_lockId (valid_of_held valid held),
      fun fresh _ _ office named => step_pendingRevocation fresh held office named⟩
  · intro g i now key lockId user he
    obtain ⟨config, r, caller, freshId, own, -, -⟩ := (mayCall_of_getElem? he).stamp
    obtain ⟨rfl, f, found, lock, raw, before, -, rfl, find, held, rfl⟩ := found_before_mark own he
    exact ⟨f, found, lock, before, find, held, rfl,
      fun fresh => unstamped_of_gone fresh he held before.le⟩

end Sessions

namespace Sessions

attribute [local instance] Regex.runner

def appealKey : LockKey := ⟨"OSL", "fence", "editor"⟩

def appeal : Fin 7 → Operation
  | 0 => .allow "osl" "*" "*" "*" "kim"
  | 1 => .allow "osl" "*" "*" "*" "lee"
  | 2 => .request ⟨250, 10⟩ { key := appealKey } none (lockIdOfNat 1)
  | 3 => .request ⟨250, 10⟩ (LockRequest.revoking { key := appealKey } 60) (some "kim")
      (lockIdOfNat 2)
  | 4 => .request ⟨250, 10⟩ (LockRequest.revoking { key := appealKey } 60) (some " lee")
      (lockIdOfNat 3)
  | 5 => .release "osl" (lockIdOfNat 1)
  | 6 => .request ⟨250, 10⟩ { key := appealKey } none (lockIdOfNat 4)

def appealTurns : List (Turn (Fin 7)) :=
  [(0, 0), (1, 0), (2, 0), (3, 10), (4, 10), (3, 20), (4, 20), (3, 30), (4, 30), (3, 40), (4, 40),
    (3, 50), (4, 60), (5, 70), (6, 80)].map fun turn =>
      { session := turn.1, now := .ofNanos turn.2 }

lemma freshIds_appeal : FreshIds appeal := freshIds_of_differ (by decide)

lemma normalKeys_appeal : NormalKeys appeal := by
  intro i config r caller lockId own
  match i with
  | 2 | 3 | 4 | 6 =>
    cases own
    exact ⟨"osl", "fence", "editor", rfl⟩

theorem pending_latest_appeal :
    (∃ m i, Store.empty.Inserts ((start appeal).journal appealTurns) m i appealKey
        (lockIdOfNat 1) ∧
      Store.empty.LastStamp ((start appeal).journal appealTurns) (m + 1) 11 appealKey
        (lockIdOfNat 1) (some ⟨"lee", .ofNanos 60⟩)) ∧
    Sanctioned appeal appealTurns 10 4 appealKey "lee" ∧
    ∃ m i, Store.empty.Inserts ((start appeal).journal appealTurns) m i appealKey
        (lockIdOfNat 4) ∧
      Store.empty.LastStamp ((start appeal).journal appealTurns) (m + 1) 13 appealKey
        (lockIdOfNat 4) none := by
  obtain ⟨told, sanctioned, -⟩ := pending_latest appeal normalKeys_appeal appealTurns
  obtain ⟨m, i, p, inserts, -, -, last, -, answer⟩ := told 11 appealKey _ rfl
  obtain ⟨m', i', p', inserts', -, -, last', -, answer'⟩ := told 13 appealKey _ rfl
  let turn : Turn (Fin 7) := { session := 0, now := .ofNanos 90 }
  have first := answer freshIds_appeal "osl" (lockIdOfNat 1) rfl (by decide) turn
  have second := answer' freshIds_appeal "osl" (lockIdOfNat 4) rfl (by decide) turn
  cases congrArg Prod.fst first
  cases congrArg Prod.fst second
  exact ⟨⟨m, i, inserts, last⟩,
    sanctioned 10 4 appealKey (lockIdOfNat 1) ⟨"lee", .ofNanos 60⟩ ⟨rfl, by decide⟩,
    m', i', inserts', last'⟩

end Sessions

end LockRegistry
