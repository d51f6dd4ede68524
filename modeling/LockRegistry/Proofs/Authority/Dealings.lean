import LockRegistry.Proofs.Authority.Changes
import LockRegistry.Regex.Runner

/-! Calls to make and remove grants, one after the other. The grants in the store are those in the
ledger that the calls add up to. -/

namespace LockRegistry

structure Dealing where
  call : GrantCall
  ask : Turn Unit
  log : Turn Unit
  rest : List (Turn Unit)

variable [Regex.Engine]

def Store.deal (s : Store) (d : Dealing) : Op Value × Store :=
  d.call.operation.op.steps s (d.ask :: d.log :: d.rest)

def Store.dealt (l : List Dealing) : Store := l.foldl (fun s d => (s.deal d).2) .empty

noncomputable def Ledger.answer (b : Ledger) (now : Timestamp) : GrantCall → Value
  | .allow office officeMask projectMask applicationMask user =>
    let key : GrantKey := .kept office user projectMask applicationMask
    .grant ((b.granted now key (Text.upper (Mask.kept officeMask))).grant key)
  | .update .. => .nothing
  | .removeAll office officeMask applicationMask user =>
    .count (b.cleared (Text.upper (Text.trim office)) (Mask.keptOption officeMask)
      (Mask.keptOption applicationMask) (Text.trim user)).ncard

def Ledger.deal (b : Ledger) (d : Dealing) : Ledger :=
  if d.call.Accepted then b.after d.ask.now d.call.change else b

def Ledger.dealt (l : List Dealing) : Ledger := l.foldl deal .blank

variable {s : Store} {b : Ledger} {d : Dealing}

lemma Store.dealt_concat (l : List Dealing) (d : Dealing) :
    dealt (l ++ [d]) = ((dealt l).deal d).2 := List.foldl_concat ..

lemma Ledger.dealt_concat (l : List Dealing) (d : Dealing) :
    dealt (l ++ [d]) = (dealt l).deal d := List.foldl_concat ..

lemma Ledger.lastId_le_deal (b : Ledger) (d : Dealing) : b.lastId ≤ (b.deal d).lastId := by
  rw [deal]
  split
  · exact b.lastId_le_after ..
  · exact le_rfl

lemma Ledger.lastId_le_of_prefix {l l' : List Dealing} (h : l' <+: l) :
    (dealt l').lastId ≤ (dealt l).lastId := by
  obtain ⟨rest, rfl⟩ := h
  induction rest using List.reverseRecOn with
  | nil => rw [List.append_nil]
  | append_singleton rest d ih =>
    rw [← List.append_assoc, dealt_concat]
    exact ih.trans (lastId_le_deal ..)

namespace Store

lemma Holds.deal_accepted (h : s.Holds b) (accepted : d.call.Accepted) :
    s.deal d = (.done (.ok (b.answer d.ask.now d.call)),
      (s.apply d.ask.now d.call.change.call).2) := by
  obtain ⟨call, ask, log, rest⟩ := d
  rw [deal]
  cases call with
  | allow office officeMask projectMask applicationMask user =>
    obtain ⟨ho, hu, hp, ha, hm⟩ := accepted
    have key := GrantCall.ofRaw_of_takes ho hu hp ha
    dsimp only [GrantCall.operation]
    rw [GrantCall.steps_allow key (GrantCall.ofRaw_newGrant hm _), (h.enter ..).1]
    rfl
  | update office user projectMask applicationMask officeMask allowed =>
    obtain ⟨ho, hu, hp, ha, hm⟩ := accepted
    have key := GrantCall.ofRaw_of_takes ho hu hp ha
    dsimp only [GrantCall.operation]
    cases allowed with
    | true =>
      rw [GrantCall.steps_update key (GrantCall.ofRaw_newGrant (hm rfl) _)]
      rfl
    | false =>
      rw [GrantCall.steps_disallow key]
      rfl
  | removeAll office om am user =>
    obtain ⟨ho, hu, hom, ham⟩ := accepted
    dsimp only [GrantCall.operation]
    rw [GrantCall.steps_removeAll ho.normalize hu.normalize (Mask.ofOption_of_takes hom)
      (Mask.ofOption_of_takes ham), (h.clear ..).1]
    rfl

lemma deal_refused (s : Store) (refused : ¬ d.call.Accepted) :
    ∃ e, s.deal d = (.done (.error (.argument e)), s) := by
  obtain ⟨e, fails⟩ := GrantCall.refused refused
  exact ⟨e, by rw [deal, fails]; exact Op.steps_done ..⟩

lemma Holds.deal (h : s.Holds b) (d : Dealing) : (s.deal d).2.Holds (b.deal d) := by
  rw [Ledger.deal]
  split
  · rename_i accepted
    rw [h.deal_accepted accepted]
    exact h.change d.ask.now d.call.change
  · rename_i refused
    obtain ⟨e, same⟩ := s.deal_refused refused
    rwa [same]

lemma holds_dealt (l : List Dealing) : (dealt l).Holds (.dealt l) := by
  induction l using List.reverseRecOn with
  | nil => exact holds_blank
  | append_singleton l d ih =>
    rw [dealt_concat, Ledger.dealt_concat]
    exact ih.deal d

end Store

namespace Ledger

lemma id_lt_of_new {l : List Dealing} {key : GrantKey} {t : Title}
    (free : (dealt l).title key = none) (made : (dealt (l ++ [d])).title key = some t)
    {l' : List Dealing} (earlier : l' <+: l) {key' : GrantKey} {t' : Title}
    (stood : (dealt l').title key' = some t') : t'.id < t.id := by
  rw [dealt_concat, deal] at made
  split at made
  · have given := (dealt l').given key' t' stood
    have later := lastId_le_of_prefix earlier
    have new := lastId_lt_of_new free made
    omega
  · cases free.symm.trans made

end Ledger

namespace Store

lemma Holds.deal_again (h : s.Holds b) {d' : Dealing} {officeMask : String} {key : GrantKey}
    (first : d.call.Accepted) (second : d'.call.Accepted)
    (enters : d.call.change = .enter key officeMask)
    (again : d'.call.change = .enter key officeMask) :
    ((s.deal d).2.deal d').2 = (s.deal d).2.touched d'.ask.now key := by
  rw [(h.deal d).deal_accepted second, again, h.deal_accepted first, enters]
  exact upsertGrant_again (find?_upsertGrant s _ ⟨key, officeMask⟩)
    (officeMask_upsertGrant s _ ⟨key, officeMask⟩) _

end Store

/-- The grants in the store are the ledger of the calls that were made, and each call answers by it.
-/
theorem Ledger.dealings (l : List Dealing) (d : Dealing) :
    let s := Store.dealt l
    let b := dealt l
    s.Holds b ∧
    (d.call.Accepted → s.deal d =
      (.done (.ok (b.answer d.ask.now d.call)), Store.dealt (l ++ [d]))) ∧
    (¬ d.call.Accepted → ∃ e, s.deal d = (.done (.error (.argument e)), s)) ∧
    (∀ key t, b.title key = none → (dealt (l ++ [d])).title key = some t →
      ∀ l', l' <+: l → ∀ key' t', (dealt l').title key' = some t' → t'.id < t.id) ∧
    (∀ d' key officeMask, d.call.Accepted → d'.call.Accepted →
      d.call.change = .enter key officeMask → d'.call.change = .enter key officeMask →
        Store.dealt (l ++ [d, d']) = (Store.dealt (l ++ [d])).touched d'.ask.now key) ∧
    ∀ office officeMask applicationMask user, d.call.Accepted →
      d.call = .removeAll office officeMask applicationMask user →
        ∀ (filter : CatalogFilter) (turn : Turn Unit), ∃ grants,
          (Operation.listGrants filter).op.step (Store.dealt (l ++ [d])) turn =
            (.done (.ok (.grants grants)), Store.dealt (l ++ [d])) ∧
          ∀ g ∈ grants, Store.isCleared (Text.upper (Text.trim office)) (Mask.keptOption officeMask)
            (Mask.keptOption applicationMask) (Text.trim user) g = false := by
  intro s b
  have holds : s.Holds b := Store.holds_dealt l
  refine ⟨holds, fun accepted => ?_, s.deal_refused,
    fun key t free made l' earlier key' t' => id_lt_of_new free made earlier,
    fun d' key officeMask first second enters again => ?_,
    fun office officeMask applicationMask user accepted clears filter turn => ?_⟩
  · rw [Store.dealt_concat, holds.deal_accepted accepted]
  · have both : l ++ [d, d'] = l ++ [d] ++ [d'] := by rw [List.append_assoc]; rfl
    rw [both, Store.dealt_concat, Store.dealt_concat]
    exact holds.deal_again first second enters again
  · refine ⟨_, rfl, fun g listed => ?_⟩
    have after := Store.holds_dealt (l ++ [d])
    rw [dealt_concat, deal, if_pos accepted, clears] at after
    exact after.not_cleared listed

end LockRegistry

namespace LockRegistry

attribute [local instance] Regex.runner

def Dealing.made (n : Nat) (call : GrantCall) : Dealing :=
  ⟨call, { session := (), now := .ofNanos n }, { session := (), now := .ofNanos n }, []⟩

def editors : GrantCall := .allow "OSL" "*" "*" " Editor" "kim"

def twoGrants : List Dealing :=
  [.made 1 (.allow " osl" "os*" "fence*" "***" " kim "), .made 2 editors]

def withdrawal : Dealing := .made 3 (.removeAll "osl" (some " OS*") none "kim")

theorem Ledger.dealings_withdrawal :
    ((dealt twoGrants).cleared "OSL" ⟨"OS*"⟩ .any "kim").ncard = 1 ∧
      (∃ grants, (Operation.listGrants {}).op.step (Store.dealt (twoGrants ++ [withdrawal]))
          withdrawal.ask = (.done (.ok (.grants grants)), Store.dealt (twoGrants ++ [withdrawal])) ∧
        ∀ g ∈ grants, Store.isCleared "OSL" ⟨"OS*"⟩ .any "kim" g = false) ∧
      Store.dealt (twoGrants ++ [.made 4 editors, .made 5 editors]) =
        (Store.dealt (twoGrants ++ [.made 4 editors])).touched (.ofNanos 5)
          ⟨"OSL", "kim", "*", "editor"⟩ := by
  obtain ⟨-, accepted, -, -, -, lists⟩ := dealings twoGrants withdrawal
  obtain ⟨-, -, -, -, again, -⟩ := dealings twoGrants (.made 4 editors)
  have takes : withdrawal.call.Accepted := by decide
  have counted : (Store.dealt twoGrants).deal withdrawal =
    (.done (.ok (.count 1)), Store.dealt (twoGrants ++ [withdrawal])) := rfl
  have answer := congrArg Prod.fst ((accepted takes).symm.trans counted)
  refine ⟨?_, lists "osl" (some " OS*") none "kim" takes rfl {} withdrawal.ask, ?_⟩
  · injection answer with answer
    injection answer with answer
    injection answer
  · exact again (.made 5 editors) ⟨"OSL", "kim", "*", "editor"⟩ "*" (by decide) (by decide) rfl rfl

end LockRegistry
