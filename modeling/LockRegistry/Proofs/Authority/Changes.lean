import LockRegistry.Proofs.Authority.Ledger
import LockRegistry.Proofs.Store.Values
import Mathlib.Data.Set.Card

namespace LockRegistry

lemma Table.ncard_keys {κ ρ : Type} [Ord κ] [Std.LawfulEqOrd κ] [DecidableEq κ] (t : Table κ ρ)
    (p : ρ → Bool) :
    {k | ∃ r, t.find? k = some r ∧ p r = true}.ncard = (t.values.filter p).length := by
  have keys : {k | ∃ r, t.find? k = some r ∧ p r = true} =
      ((t.rows.filter (p ·.2)).map (·.1)).toFinset := by
    ext k
    simp [find?_eq_some_iff]
  have distinct : ((t.rows.filter (p ·.2)).map (·.1)).Nodup :=
    t.nodup_keys.sublist (List.filter_sublist.map _)
  rw [keys, Set.ncard_coe_finset, List.toFinset_card_of_nodup distinct, List.length_map, values,
    List.filter_map, List.length_map]
  rfl

def GrantChange.call : GrantChange → Call
  | enter key officeMask => .upsertGrant ⟨key, officeMask⟩
  | strike key => .deleteGrant key
  | clear office officeMask applicationMask user =>
    .deleteGrants office officeMask applicationMask user

namespace GrantCall

variable {ι : Type} {s : Store} {t t' : Turn ι} {ts : List (Turn ι)} {key : GrantKey}
  {new : NewGrant} {office officeMask projectMask applicationMask user : String}

variable [Regex.Engine]

lemma ofRaw_of_takes (ho : Field.office.Takes office) (hu : Field.user.Takes user)
    (hp : Mask.Takes projectMask) (ha : Mask.Takes applicationMask) :
    GrantKey.ofRaw office user projectMask applicationMask =
      .ok (.kept office user projectMask applicationMask) := by
  simp only [GrantKey.ofRaw, ho.normalize, hu.normalize, Mask.ofString_of_takes hp,
    Mask.ofString_of_takes ha, ok_bind]
  rfl

lemma takes_of_ofRaw (h : GrantKey.ofRaw office user projectMask applicationMask = .ok key) :
    Field.office.Takes office ∧ Field.user.Takes user ∧ Mask.Takes projectMask ∧
      Mask.Takes applicationMask := by
  obtain ⟨o, ho, h₁⟩ := bind_eq_ok.1 h
  obtain ⟨u, hu, h₂⟩ := bind_eq_ok.1 h₁
  obtain ⟨p, hp, h₃⟩ := bind_eq_ok.1 h₂
  obtain ⟨a, ha, -⟩ := bind_eq_ok.1 h₃
  exact ⟨Field.takes_of_normalize ho, Field.takes_of_normalize hu, Mask.takes_of_ofString hp,
    Mask.takes_of_ofString ha⟩

lemma ofRaw_newGrant (h : Mask.Takes officeMask) (key : GrantKey) :
    NewGrant.ofRaw key officeMask = .ok ⟨key, Text.upper (Mask.kept officeMask)⟩ := by
  simp only [NewGrant.ofRaw, Mask.ofString_of_takes h, ok_bind]
  rfl

lemma takes_of_newGrant (h : NewGrant.ofRaw key officeMask = .ok new) : Mask.Takes officeMask := by
  obtain ⟨m, hm, -⟩ := bind_eq_ok.1 h
  exact Mask.takes_of_ofString hm

lemma steps_allow_bind {α : Type}
    (hk : GrantKey.ofRaw office user projectMask applicationMask = .ok key)
    (hn : NewGrant.ofRaw key officeMask = .ok new) (f : Grant → Op α) :
    (Authority.allow office officeMask projectMask applicationMask user >>= f).steps s
        (t :: t' :: ts) =
      (f (s.upsertGrant t.now new).1).steps (s.upsertGrant t.now new).2 ts := by
  simp only [Authority.allow, hk, hn, Op.check_ok_bind]
  rfl

lemma steps_allow (hk : GrantKey.ofRaw office user projectMask applicationMask = .ok key)
    (hn : NewGrant.ofRaw key officeMask = .ok new) :
    (Operation.allow office officeMask projectMask applicationMask user).op.steps s
        (t :: t' :: ts) =
      (.done (.ok (.grant (s.upsertGrant t.now new).1)), (s.upsertGrant t.now new).2) :=
  (steps_allow_bind hk hn (pure ∘ Value.grant)).trans (Op.steps_done ..)

lemma steps_update (hk : GrantKey.ofRaw office user projectMask applicationMask = .ok key)
    (hn : NewGrant.ofRaw key officeMask = .ok new) :
    (Operation.update office user projectMask applicationMask officeMask true).op.steps s
        (t :: t' :: ts) =
      (.done (.ok .nothing), (s.upsertGrant t.now new).2) := by
  simp only [Operation.op, Authority.update, if_true]
  change Op.steps (_ >>= _ >>= _) s (t :: t' :: ts) = _
  rw [Op.bind_assoc]
  exact (steps_allow_bind hk hn _).trans (Op.steps_done ..)

lemma steps_disallow (hk : GrantKey.ofRaw office user projectMask applicationMask = .ok key) :
    (Operation.update office user projectMask applicationMask officeMask false).op.steps s
        (t :: t' :: ts) =
      (.done (.ok .nothing), (s.deleteGrant key).2) := by
  simp only [Operation.op, Authority.update, Authority.disallow, hk, Op.check_ok_bind]
  rw [Op.steps_cons]
  change Op.steps (_ <$> ite ((s.deleteGrant key).1 = true) _ _) _ _ = _
  split <;> exact Op.steps_done ..

lemma steps_removeAll {om am : Option String} {o u : String} {mo ma : Mask}
    (ho : Field.office.normalize office = .ok o) (hu : Field.user.normalize user = .ok u)
    (hom : Mask.ofOption om = .ok mo) (ham : Mask.ofOption am = .ok ma) :
    (Operation.removeAll office om am user).op.steps s (t :: t' :: ts) =
      (.done (.ok (.count (s.deleteGrants o mo ma u).1)), (s.deleteGrants o mo ma u).2) := by
  simp only [Operation.op, Authority.removeAll, ho, hu, hom, ham, Op.check_ok_bind]
  exact Op.steps_done ..

lemma refused_allow (h : ¬ (allow office officeMask projectMask applicationMask user).Accepted) :
    ∃ e, Authority.allow office officeMask projectMask applicationMask user =
      .fail (.argument e) := by
  rw [Authority.allow]
  cases hk : GrantKey.ofRaw office user projectMask applicationMask with
  | error e => exact ⟨e, rfl⟩
  | ok key =>
    cases hn : NewGrant.ofRaw key officeMask with
    | error e => exact ⟨e, by rw [Op.check_ok_bind, hn]; rfl⟩
    | ok new =>
      obtain ⟨ho, hu, hp, ha⟩ := takes_of_ofRaw hk
      exact absurd ⟨ho, hu, hp, ha, takes_of_newGrant hn⟩ h

lemma refused_disallow
    (h : ¬ (update office user projectMask applicationMask officeMask false).Accepted) :
    ∃ e, Authority.disallow office user projectMask applicationMask = .fail (.argument e) := by
  rw [Authority.disallow]
  cases hk : GrantKey.ofRaw office user projectMask applicationMask with
  | error e => exact ⟨e, rfl⟩
  | ok key =>
    obtain ⟨ho, hu, hp, ha⟩ := takes_of_ofRaw hk
    exact absurd ⟨ho, hu, hp, ha, nofun⟩ h

lemma refused_removeAll {om am : Option String} (h : ¬ (removeAll office om am user).Accepted) :
    ∃ e, Authority.removeAll office om am user = .fail (.argument e) := by
  rw [Authority.removeAll]
  cases ho : Field.office.normalize office with
  | error e => exact ⟨e, rfl⟩
  | ok o =>
    cases hu : Field.user.normalize user with
    | error e => exact ⟨e, rfl⟩
    | ok u =>
      cases hom : Mask.ofOption om with
      | error e => exact ⟨e, rfl⟩
      | ok mo =>
        cases ham : Mask.ofOption am with
        | error e => exact ⟨e, rfl⟩
        | ok ma =>
          exact absurd ⟨Field.takes_of_normalize ho, Field.takes_of_normalize hu,
            Mask.takes_of_ofOption hom, Mask.takes_of_ofOption ham⟩ h

lemma refused {c : GrantCall} (h : ¬ c.Accepted) :
    ∃ e, c.operation.op = .fail (.argument e) := by
  cases c with
  | allow office officeMask projectMask applicationMask user =>
    obtain ⟨e, fails⟩ := refused_allow h
    exact ⟨e, by rw [operation, Operation.op, fails]; rfl⟩
  | update office user projectMask applicationMask officeMask allowed =>
    cases allowed with
    | true =>
      have same : ¬ (allow office officeMask projectMask applicationMask user).Accepted :=
        fun ⟨ho, hu, hp, ha, hm⟩ => h ⟨ho, hu, hp, ha, fun _ => hm⟩
      obtain ⟨e, fails⟩ := refused_allow same
      exact ⟨e, by rw [operation, Operation.op, Authority.update, if_pos rfl, fails]; rfl⟩
    | false =>
      obtain ⟨e, fails⟩ := refused_disallow h
      exact ⟨e, by rw [operation, Operation.op, Authority.update, if_neg nofun, fails]; rfl⟩
  | removeAll office om am user =>
    obtain ⟨e, fails⟩ := refused_removeAll h
    exact ⟨e, by rw [operation, Operation.op, fails]; rfl⟩

end GrantCall

namespace Store

variable {s : Store} {b : Ledger} {key : GrantKey} {now : Timestamp}

structure Holds (s : Store) (b : Ledger) : Prop where
  grants : ∀ key, s.grants.find? key = (b.title key).map (·.grant key)
  lastId : s.lastGrantId = b.lastId

lemma holds_blank : empty.Holds .blank := ⟨fun _ => rfl, rfl⟩

lemma officeMask_upsertGrant (s : Store) (now : Timestamp) (new : NewGrant) :
    (s.upsertGrant now new).1.officeMask = new.officeMask := by
  rw [upsertGrant]
  split <;> rfl

lemma Holds.insert (h : s.Holds b) {officeMask : String} {g : Grant} {last : Int}
    (made : g = (b.granted now key officeMask).grant key)
    (given : last = max b.lastId (b.granted now key officeMask).id) :
    Holds { s with grants := s.grants.insert key g, lastGrantId := last }
      (b.enter now key officeMask) := by
  refine ⟨fun key' => ?_, given⟩
  by_cases own : key' = key
  · subst own
    rw [Ledger.title_enter_self, made]
    exact Table.find?_insert_self ..
  · rw [Ledger.title_enter_of_ne officeMask own, ← h.grants]
    exact Table.find?_insert_of_ne _ _ own

lemma Holds.enter (h : s.Holds b) (now : Timestamp) (key : GrantKey) (officeMask : String) :
    (s.upsertGrant now ⟨key, officeMask⟩).1 = (b.granted now key officeMask).grant key ∧
      (s.upsertGrant now ⟨key, officeMask⟩).2.Holds (b.enter now key officeMask) := by
  have row := h.grants key
  cases title : b.title key with
  | none =>
    rw [title] at row
    have granted := Ledger.granted_of_free title now officeMask
    have made : NewGrant.toGrant ⟨key, officeMask⟩ (s.lastGrantId + 1) now =
        (b.granted now key officeMask).grant key := by
      rw [granted, h.lastId]
      rfl
    have given : s.lastGrantId + 1 = max b.lastId (b.granted now key officeMask).id := by
      rw [granted, h.lastId]
      exact (max_eq_right (Int.le_of_lt (Int.lt_succ _))).symm
    rw [upsertGrant_of_free (g := ⟨key, officeMask⟩) row]
    exact ⟨made, h.insert made given⟩
  | some t =>
    rw [title] at row
    have granted := Ledger.granted_of_held title now officeMask
    have made : (t.grant key).refreshed officeMask now =
        (b.granted now key officeMask).grant key := by
      rw [granted]
      rfl
    have given : s.lastGrantId = max b.lastId (b.granted now key officeMask).id := by
      rw [granted, h.lastId]
      exact (max_eq_left (b.given key t title)).symm
    rw [upsertGrant_of_held (g := ⟨key, officeMask⟩) row]
    exact ⟨made, h.insert made given⟩

lemma Holds.strike (h : s.Holds b) (key : GrantKey) :
    (s.deleteGrant key).2.Holds (b.strike fun key' _ => key' == key) := by
  refine ⟨fun key' => ?_, h.lastId⟩
  rw [Ledger.title_strike]
  by_cases own : key' = key
  · subst own
    rw [deleteGrant, Table.find?_erase_self]
    cases b.title key' <;> simp
  · rw [deleteGrant, Table.find?_erase_of_ne _ own, h.grants]
    cases b.title key' <;> simp [own]

variable [Regex.Engine]

lemma Holds.clear (h : s.Holds b) (office : String) (officeMask applicationMask : Mask)
    (user : String) :
    (s.deleteGrants office officeMask applicationMask user).1 =
        (b.cleared office officeMask applicationMask user).ncard ∧
      (s.deleteGrants office officeMask applicationMask user).2.Holds
        (b.strike (Ledger.clears office officeMask applicationMask user)) := by
  constructor
  · rw [(deleteGrants_eq s office officeMask applicationMask user).1, ← Table.ncard_keys]
    refine congrArg Set.ncard (Set.ext fun key => ?_)
    simp only [Set.mem_ofPred_eq, Ledger.cleared, h.grants, Option.map_eq_some_iff]
    constructor
    · rintro ⟨_, ⟨t, held, rfl⟩, own⟩
      exact ⟨t, held, own⟩
    · rintro ⟨t, held, own⟩
      exact ⟨_, ⟨t, held, rfl⟩, own⟩
  · refine ⟨fun key => ?_, h.lastId⟩
    rw [deleteGrants, Table.find?_filter, h.grants, Ledger.title_strike, Option.filter_map]
    rfl

lemma Holds.change (h : s.Holds b) (now : Timestamp) (c : GrantChange) :
    (s.apply now c.call).2.Holds (b.after now c) := by
  cases c with
  | enter key officeMask => exact (h.enter now key officeMask).2
  | strike key => exact h.strike key
  | clear office officeMask applicationMask user =>
    exact (h.clear office officeMask applicationMask user).2

def touched (s : Store) (now : Timestamp) (key : GrantKey) : Store :=
  { s with grants := s.grants.modify key fun g => { g with updatedAt := now } }

omit [Regex.Engine] in
lemma upsertGrant_again {officeMask : String} {g : Grant} (held : s.grants.find? key = some g)
    (same : g.officeMask = officeMask) (now : Timestamp) :
    (s.upsertGrant now ⟨key, officeMask⟩).2 = s.touched now key := by
  have table : s.grants.insert key (g.refreshed officeMask now) =
      s.grants.modify key fun g => { g with updatedAt := now } := by
    refine Table.ext_find? fun key' => ?_
    by_cases own : key' = key
    · subst own
      rw [Table.find?_insert_self, Table.find?_modify_self, held, ← same]
      rfl
    · rw [Table.find?_insert_of_ne _ _ own, Table.find?_modify_of_ne _ _ own]
  rw [upsertGrant_of_held (g := ⟨key, officeMask⟩) held, table, touched]

lemma Holds.not_cleared {office user : String} {officeMask applicationMask : Mask}
    {filter : CatalogFilter} {g : Grant}
    (h : s.Holds (b.after now (.clear office officeMask applicationMask user)))
    (listed : g ∈ s.listGrants filter) :
    isCleared office officeMask applicationMask user g = false := by
  obtain ⟨key, held⟩ := Table.mem_values_iff.1 (List.mem_filter.1 listed).1
  rw [h.grants] at held
  obtain ⟨t, title, rfl⟩ := Option.map_eq_some_iff.1 held
  exact Ledger.not_clears_of_clear title

end Store

end LockRegistry
