import LockRegistry.Proofs.Op.Polls
import LockRegistry.Store
import Mathlib.Logic.Function.Basic

/-! Sessions that share a store and take turns, one step at a time and in any order. Replaying the
journal of their calls gives the store. -/

namespace LockRegistry

variable {ι α : Type}

-- The time of day, the clock, and whether the token has fired, as they are shown to the session.
structure Turn (ι : Type) where
  session : ι
  now : Timestamp
  clock : Nat := 0
  fired : Bool := false

structure Entry (ι : Type) where
  session : ι
  now : Timestamp
  call : Call

structure Sessions (ι α : Type) where
  store : Store
  op : ι → Op α

namespace Op

def entries (x : Op α) (t : Turn ι) : List (Entry ι) :=
  match x.action with
  | .call c _ => [⟨t.session, t.now, c⟩]
  | _ => []

lemma session_of_mem_entries {x : Op α} {t : Turn ι} {e : Entry ι} (h : e ∈ x.entries t) :
    e.session = t.session := by
  unfold entries at h
  split at h
  · obtain rfl := List.mem_singleton.1 h
    rfl
  · cases h

lemma sees_of_result? {x : Op α} {r : Except LockError α} (h : x.result? = some r) :
    x.Sees [] r := by
  unfold result? at h
  split at h
  · rename_i ha
    exact .done (ha.trans (congrArg _ (Option.some.inj h)))
  · cases h

lemma exists_sees (x : Op α) : ∃ t r, x.Sees t r := by
  obtain ⟨l, r, makes⟩ := x.exists_makes
  obtain ⟨t, sees, -⟩ := runs_iff.1 makes
  exact ⟨t, r, sees⟩

end Op

variable [Regex.Engine]

namespace Entry

def reply (e : Entry ι) (s : Store) : e.call.Reply := (s.apply e.now e.call).1

def after (e : Entry ι) (s : Store) : Store := (s.apply e.now e.call).2

def exchange (e : Entry ι) (s : Store) : Exchange := ⟨e.call, e.reply s⟩

lemma eq_of_exchange {e : Entry ι} {i : ι} {s : Store} {x : Exchange} (own : e.session = i)
    (hx : x = e.exchange s) : e = ⟨i, e.now, x.call⟩ := by
  subst own hx
  rfl

lemma answered {e : Entry ι} {s : Store} {c : Call} {a : c.Reply} (h : ⟨c, a⟩ = e.exchange s) :
    e.call = c ∧ a = (s.apply e.now c).1 := by
  obtain ⟨i, now, c'⟩ := e
  obtain rfl : c = c' := congrArg Exchange.call h
  exact ⟨rfl, eq_of_heq (Exchange.mk.inj h).2⟩

end Entry

namespace Store

def replay (s : Store) (j : List (Entry ι)) : Store := j.foldl (fun s e => e.after s) s

def instant (s : Store) (j : List (Entry ι)) (n : Nat) : Store := s.replay (j.take n)

@[simp] lemma replay_cons (s : Store) (e : Entry ι) (j : List (Entry ι)) :
    s.replay (e :: j) = (e.after s).replay j := rfl

lemma replay_append (s : Store) (j j' : List (Entry ι)) :
    s.replay (j ++ j') = (s.replay j).replay j' := List.foldl_append

lemma instant_succ (s : Store) (j : List (Entry ι)) (n : Nat) :
    s.instant j (n + 1) = (s.instant j n).replay j[n]?.toList := by
  rw [instant, List.take_add_one, replay_append]
  rfl

lemma instant_succ_of_getElem? {s : Store} {j : List (Entry ι)} {n : Nat} {e : Entry ι}
    (h : j[n]? = some e) : s.instant j (n + 1) = e.after (s.instant j n) := by
  rw [instant_succ, h]
  rfl

lemma instant_of_length_le {s : Store} {j : List (Entry ι)} {n : Nat} (h : j.length ≤ n) :
    s.instant j n = s.replay j := by
  rw [instant, List.take_of_length_le h]

end Store

section Exchanges

variable [DecidableEq ι] {i : ι} {s : Store} {j : List (Entry ι)} {e : Entry ι} {n : Nat}

-- What a session asks of the store in the course of a journal, with the answers.
def exchanges (i : ι) (s : Store) : List (Entry ι) → List Exchange
  | [] => []
  | e :: j => (if e.session = i then [e.exchange s] else []) ++ exchanges i (e.after s) j

lemma exchanges_append (i : ι) (s : Store) (j j' : List (Entry ι)) :
    exchanges i s (j ++ j') = exchanges i s j ++ exchanges i (s.replay j) j' := by
  induction j generalizing s with
  | nil => rfl
  | cons e j ih => simp [exchanges, ih]

lemma exchanges_succ (i : ι) (s : Store) (h : j[n]? = some e) :
    exchanges i s (j.take (n + 1)) =
      exchanges i s (j.take n) ++ if e.session = i then [e.exchange (s.instant j n)] else [] := by
  rw [List.take_add_one, h, exchanges_append]
  simp [exchanges, Store.instant]

lemma exchanges_at (s : Store) (h : j[n]? = some e) (own : e.session = i) :
    ∃ l, exchanges i s j = exchanges i s (j.take n) ++ e.exchange (s.instant j n) :: l := by
  refine ⟨exchanges i (s.instant j (n + 1)) (j.drop (n + 1)), ?_⟩
  calc exchanges i s j = exchanges i s (j.take (n + 1) ++ j.drop (n + 1)) := by
        rw [List.take_append_drop]
    _ = _ := by
        rw [exchanges_append, exchanges_succ i s h, if_pos own, List.append_assoc]
        rfl

lemma exchange_mem (s : Store) (h : j[n]? = some e) (own : e.session = i) :
    e.exchange (s.instant j n) ∈ exchanges i s j := by
  obtain ⟨l, split⟩ := exchanges_at s h own
  simp [split]

lemma exchanges_pair (s : Store) {m : Nat} {e' : Entry ι} (hm : j[m]? = some e)
    (hn : j[n]? = some e') (before : m < n) (own : e.session = i) (own' : e'.session = i) :
    ∃ l l', exchanges i s j =
      (exchanges i s (j.take m) ++ e.exchange (s.instant j m) :: l) ++
        e'.exchange (s.instant j n) :: l' := by
  have early : (j.take n)[m]? = some e := by rw [List.getElem?_take_of_lt before, hm]
  have within : (j.take n).take m = j.take m := by
    rw [List.take_take, Nat.min_eq_left (Nat.le_of_lt before)]
  obtain ⟨l', hl'⟩ := exchanges_at s hn own'
  obtain ⟨l, hl⟩ := exchanges_at s early own
  rw [Store.instant, within] at hl
  exact ⟨l, l', by rw [hl', hl]; rfl⟩

lemma exchanges_not_before {p : Exchange → Bool} {m : Nat} {e' : Entry ι}
    (once : (exchanges i s j).countP p ≤ 1) (hm : j[m]? = some e) (hn : j[n]? = some e')
    (own : e.session = i) (own' : e'.session = i) (he : p (e.exchange (s.instant j m)) = true)
    (he' : p (e'.exchange (s.instant j n)) = true) : ¬ m < n := by
  intro before
  obtain ⟨l, l', split⟩ := exchanges_pair s hm hn before own own'
  rw [split] at once
  simp only [List.countP_append, List.countP_cons, he, he', if_true] at once
  omega

lemma exchanges_unique {p : Exchange → Bool} {m : Nat} {e' : Entry ι}
    (once : (exchanges i s j).countP p ≤ 1) (hm : j[m]? = some e) (hn : j[n]? = some e')
    (own : e.session = i) (own' : e'.session = i) (he : p (e.exchange (s.instant j m)) = true)
    (he' : p (e'.exchange (s.instant j n)) = true) : m = n :=
  Nat.le_antisymm (Nat.not_lt.1 (exchanges_not_before once hn hm own' own he' he))
    (Nat.not_lt.1 (exchanges_not_before once hm hn own own' he he'))

lemma exchanges_eq_nil (s : Store) (h : ∀ e ∈ j, e.session ≠ i) : exchanges i s j = [] := by
  induction j generalizing s with
  | nil => rfl
  | cons e j ih =>
    rw [exchanges, if_neg (h e List.mem_cons_self), List.nil_append]
    exact ih _ fun e' he => h e' (List.mem_cons_of_mem _ he)

lemma exchanges_split {x : Exchange} {l l' : List Exchange} (h : exchanges i s j = l ++ x :: l') :
    ∃ n e, j[n]? = some e ∧ e.session = i ∧ x = e.exchange (s.instant j n) ∧
      exchanges i s (j.take n) = l := by
  induction j generalizing s l with
  | nil => simp [exchanges] at h
  | cons e j ih =>
    simp only [exchanges] at h
    by_cases own : e.session = i
    · rw [if_pos own, List.singleton_append] at h
      cases l with
      | nil =>
        obtain ⟨rfl, -⟩ := List.cons.inj h
        exact ⟨0, e, rfl, own, rfl, rfl⟩
      | cons y l =>
        obtain ⟨rfl, hl⟩ := List.cons.inj h
        obtain ⟨n, e', he, hs, hx, rfl⟩ := ih hl
        exact ⟨n + 1, e', he, hs, hx, by simp [exchanges, own]⟩
    · rw [if_neg own, List.nil_append] at h
      obtain ⟨n, e', he, hs, hx, rfl⟩ := ih h
      exact ⟨n + 1, e', he, hs, hx, by simp [exchanges, own]⟩

lemma exchanges_split_take {x : Exchange} {l l' : List Exchange}
    (h : exchanges i s (j.take n) = l ++ x :: l') :
    ∃ m e, m < n ∧ j[m]? = some e ∧ e.session = i ∧ x = e.exchange (s.instant j m) ∧
      exchanges i s (j.take m) = l := by
  obtain ⟨m, e, he, own, hx, hl⟩ := exchanges_split h
  rw [List.getElem?_take] at he
  split at he
  · rename_i before
    have within : (j.take n).take m = j.take m := by
      rw [List.take_take, Nat.min_eq_left (Nat.le_of_lt before)]
    rw [Store.instant, within] at hx
    rw [within] at hl
    exact ⟨m, e, before, he, own, hx, hl⟩
  · cases he

lemma entry_of_mem_exchanges {x : Exchange} (h : x ∈ exchanges i s (j.take n)) :
    ∃ m e, m < n ∧ j[m]? = some e ∧ e.session = i ∧ x = e.exchange (s.instant j m) := by
  obtain ⟨l, l', split⟩ := List.append_of_mem h
  obtain ⟨m, e, before, he, own, hx, -⟩ := exchanges_split_take split
  exact ⟨m, e, before, he, own, hx⟩

end Exchanges

namespace Op

def step (x : Op α) (s : Store) (t : Turn ι) : Op α × Store :=
  match x.action with
  | .done _ => (x, s)
  | .log _ next => (next, s)
  | .call c next => (next (.ok (s.apply t.now c).1), (s.apply t.now c).2)
  | .clock next => (next t.clock, s)
  | .token next => (next t.fired, s)
  | .nap _ next => (next t.fired, s)

def steps (x : Op α) (s : Store) (ts : List (Turn ι)) : Op α × Store :=
  ts.foldl (fun p t => p.1.step p.2 t) (x, s)

@[simp] lemma steps_cons (x : Op α) (s : Store) (t : Turn ι) (ts : List (Turn ι)) :
    x.steps s (t :: ts) = (x.step s t).1.steps (x.step s t).2 ts := rfl

@[simp] lemma steps_done (r : Except LockError α) (s : Store) (ts : List (Turn ι)) :
    (done r).steps s ts = (done r, s) := by
  induction ts with
  | nil => rfl
  | cons t ts ih => exact ih

lemma steps_ask_bind {β : Type} (c : Call) (k : c.Reply → Op β) (s : Store) (t : Turn ι)
    (ts : List (Turn ι)) :
    (ask c >>= k).steps s (t :: ts) = (k (s.apply t.now c).1).steps (s.apply t.now c).2 ts := rfl

lemma steps_emit_bind {β : Type} (event : LogEvent) (k : Unit → Op β) (s : Store) (t : Turn ι)
    (ts : List (Turn ι)) : (emit event >>= k).steps s (t :: ts) = (k ()).steps s ts := rfl

lemma store_step (x : Op α) (s : Store) (t : Turn ι) :
    (x.step s t).2 = s.replay (x.entries t) := by
  unfold step entries
  cases x.action <;> rfl

def sights (x : Op α) (s : Store) (t : Turn ι) : List Sight :=
  match x.action with
  | .done _ | .log _ _ => []
  | .call c _ => [.asked ⟨c, (s.apply t.now c).1⟩]
  | .clock _ => [.clock t.clock]
  | .token _ => [.token t.fired]
  | .nap length _ => [.nap length t.fired]

lemma exchangesOf_sights [DecidableEq ι] (x : Op α) (s : Store) (t : Turn ι) :
    exchangesOf (x.sights s t) = exchanges t.session s (x.entries t) := by
  unfold sights entries
  cases x.action with
  | call c next => simp [exchanges, exchangesOf, Sight.exchange?, Entry.exchange, Entry.reply]
  | _ => rfl

lemma sees_of_step {x : Op α} {s : Store} {t : Turn ι} {l : List Sight} {r : Except LockError α}
    (h : (x.step s t).1.Sees l r) : x.Sees (x.sights s t ++ l) r := by
  have shows {y : Op α} {m : List Sight} (hm : x.action.Shows m y) (hy : y.Sees l r) :
      x.Sees (m ++ l) r := .step hm hy
  unfold step at h
  unfold sights
  cases ha : x.action with
  | done r' => rw [ha] at h; exact h
  | log e next => rw [ha] at h shows; exact shows (.log e next) h
  | call c next => rw [ha] at h shows; exact shows (.call c next _) h
  | clock next => rw [ha] at h shows; exact shows (.clock next _) h
  | token next => rw [ha] at h shows; exact shows (.token next _) h
  | nap length next => rw [ha] at h shows; exact shows (.nap length next _) h

end Op

namespace Sessions

variable [DecidableEq ι]

def step (σ : Sessions ι α) (t : Turn ι) : Sessions ι α where
  store := ((σ.op t.session).step σ.store t).2
  op := Function.update σ.op t.session ((σ.op t.session).step σ.store t).1

def run (σ : Sessions ι α) (h : List (Turn ι)) : Sessions ι α := h.foldl step σ

def journal (σ : Sessions ι α) : List (Turn ι) → List (Entry ι)
  | [] => []
  | t :: h => (σ.op t.session).entries t ++ (σ.step t).journal h

def result? (σ : Sessions ι α) (i : ι) : Option (Except LockError α) := (σ.op i).result?

lemma store_run (σ : Sessions ι α) (h : List (Turn ι)) :
    (σ.run h).store = σ.store.replay (σ.journal h) := by
  induction h generalizing σ with
  | nil => rfl
  | cons t h ih =>
    calc ((σ.step t).run h).store = (σ.step t).store.replay ((σ.step t).journal h) := ih _
      _ = σ.store.replay (σ.journal (t :: h)) := by
        rw [journal, Store.replay_append, ← Op.store_step]
        rfl

lemma run_own {σ : Sessions ι α} {i : ι} {ts : List (Turn ι)} (own : ∀ t ∈ ts, t.session = i) :
    σ.run ts = ⟨((σ.op i).steps σ.store ts).2,
      Function.update σ.op i ((σ.op i).steps σ.store ts).1⟩ := by
  induction ts generalizing σ with
  | nil => exact congrArg (Sessions.mk σ.store) (Function.update_eq_self i σ.op).symm
  | cons t ts ih =>
    obtain ⟨rfl, own⟩ := List.forall_mem_cons.1 own
    have next := ih (σ := σ.step t) own
    simp only [step, Function.update_self, Function.update_idem] at next
    exact next

def sights (i : ι) (σ : Sessions ι α) : List (Turn ι) → List Sight
  | [] => []
  | t :: h => (if t.session = i then (σ.op i).sights σ.store t else []) ++ (σ.step t).sights i h

variable {σ : Sessions ι α} {h : List (Turn ι)} {i : ι} {r : Except LockError α}

lemma exchangesOf_sights (σ : Sessions ι α) (h : List (Turn ι)) (i : ι) :
    exchangesOf (σ.sights i h) = exchanges i σ.store (σ.journal h) := by
  induction h generalizing σ with
  | nil => rfl
  | cons t h ih =>
    rw [sights, journal, exchanges_append, ← Op.store_step, exchangesOf, List.filterMap_append]
    congr 1
    · by_cases own : t.session = i
      · subst own
        rw [if_pos rfl]
        exact Op.exchangesOf_sights ..
      · rw [if_neg own, exchanges_eq_nil _ fun e he => Op.session_of_mem_entries he ▸ own]
        rfl
    · exact ih (σ.step t)

lemma sees_of_run {l : List Sight} (rest : ((σ.run h).op i).Sees l r) :
    (σ.op i).Sees (σ.sights i h ++ l) r := by
  induction h generalizing σ with
  | nil => exact rest
  | cons t h ih =>
    have next := ih (σ := σ.step t) rest
    rw [sights, List.append_assoc]
    -- a turn of another session shows nothing to this one
    by_cases own : t.session = i
    · subst own
      rw [if_pos rfl]
      exact Op.sees_of_step (by simpa [step] using next)
    · rw [if_neg own]
      simpa [step, Ne.symm own] using next

lemma sees_of_result? (hr : (σ.run h).result? i = some r) : (σ.op i).Sees (σ.sights i h) r := by
  have rest := sees_of_run (Op.sees_of_result? hr)
  rwa [List.append_nil] at rest

lemma exists_sees (σ : Sessions ι α) (h : List (Turn ι)) (i : ι) :
    ∃ t r, (σ.op i).Sees (σ.sights i h ++ t) r := by
  obtain ⟨t, r, rest⟩ := ((σ.run h).op i).exists_sees
  exact ⟨t, r, sees_of_run rest⟩

lemma makes_of_result? (hr : (σ.run h).result? i = some r) :
    (σ.op i).Makes (exchanges i σ.store (σ.journal h)) r :=
  runs_iff.2 ⟨_, sees_of_result? hr, exchangesOf_sights σ h i⟩

lemma exists_makes (σ : Sessions ι α) (h : List (Turn ι)) (i : ι) :
    ∃ l r, (σ.op i).Makes (exchanges i σ.store (σ.journal h) ++ l) r := by
  obtain ⟨t, r, sees⟩ := σ.exists_sees h i
  refine ⟨exchangesOf t, r, runs_iff.2 ⟨_, sees, ?_⟩⟩
  rw [← exchangesOf_sights, exchangesOf, List.filterMap_append]
  rfl

end Sessions

end LockRegistry
