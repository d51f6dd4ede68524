import LockRegistry.Database.Like
import LockRegistry.Proofs.Mask.Pieces

namespace LockRegistry.Database

open Text (Cut cut_nil cut_cons)

namespace LikePart

def Fits : LikePart → List Char → Prop
  | run, _ => True
  | one, piece => ∃ c, piece = [c]
  | letter d, piece => ∃ c, piece = [c] ∧ Text.sameLetter c d = true

def ofChar (c : Char) : LikePart :=
  if c = runWildcard then run else if c = oneWildcard then one else letter c

lemma fits_ofChar_iff (c : Char) (piece : List Char) :
    (ofChar c).Fits piece ↔ Mask.Stands c piece := by
  unfold ofChar Mask.Stands
  split
  · exact Iff.rfl
  · split <;> exact Iff.rfl

def toChar : LikePart → Char
  | run => runWildcard
  | one => oneWildcard
  | letter c => c

lemma toChar_ofChar (c : Char) : (ofChar c).toChar = c := by
  unfold ofChar
  split
  · rename_i run
    exact run.symm
  · split
    · rename_i one
      exact one.symm
    · rfl

end LikePart

namespace Like

open LikePart (Fits)

variable {parts : List LikePart} {part : LikePart} {texts : List (List Char)}
  {p text rest : List Char}

inductive Satisfies : List Char → List Char → Prop
  | nil : Satisfies [] []
  | run (cs : List Char) {p text : List Char} (rest : Satisfies p text) :
      Satisfies ('%' :: p) (cs ++ text)
  | one (c : Char) {p text : List Char} (rest : Satisfies p text) : Satisfies ('_' :: p) (c :: text)
  | escaped {c d : Char} {p text : List Char} (same : Text.sameLetter c d = true)
      (rest : Satisfies p text) : Satisfies ('\\' :: d :: p) (c :: text)
  | letter {c d : Char} {p text : List Char} (plain : d ≠ '%' ∧ d ≠ '_' ∧ d ≠ '\\')
      (same : Text.sameLetter c d = true) (rest : Satisfies p text) :
      Satisfies (d :: p) (c :: text)

section Covers

lemma mem_suffixes : rest ∈ suffixes text ↔ ∃ cs, text = cs ++ rest := by
  induction text with
  | nil => simp [suffixes, eq_comm]
  | cons c text ih =>
    rw [suffixes, List.mem_cons, ih]
    constructor
    · rintro (rfl | ⟨cs, rfl⟩)
      · exact ⟨[], rfl⟩
      · exact ⟨c :: cs, rfl⟩
    · rintro ⟨cs, split⟩
      cases cs with
      | nil => exact .inl split.symm
      | cons d cs =>
        obtain ⟨rfl, rfl⟩ := List.cons.inj split
        exact .inr ⟨cs, rfl⟩

lemma pairwise_suffixes (text : List Char) : (suffixes text).Pairwise fun a b => b <:+ a := by
  induction text with
  | nil => exact List.pairwise_singleton _ _
  | cons c text ih =>
    refine List.pairwise_cons.2 ⟨fun rest mem => ?_, ih⟩
    obtain ⟨cs, rfl⟩ := mem_suffixes.1 mem
    exact ⟨c :: cs, rfl⟩

lemma suffix_of_cons {c d : Char} {a b : List Char} (h : d :: b <:+ c :: a) : b <:+ a := by
  rcases List.suffix_cons_iff.1 h with same | shorter
  · obtain ⟨-, rfl⟩ := List.cons.inj same
    exact List.suffix_rfl
  · exact (List.suffix_cons d b).trans shorter

lemma pairwise_filterMap {f : List Char → Option (List Char)}
    (takes : ∀ text rest, f text = some rest → ∃ c, text = c :: rest)
    (h : texts.Pairwise fun a b => b <:+ a) :
    (texts.filterMap f).Pairwise fun a b => b <:+ a := by
  refine h.filterMap f fun a b shorter a' ha b' hb => ?_
  obtain ⟨c, rfl⟩ := takes a a' ha
  obtain ⟨d, rfl⟩ := takes b b' hb
  exact suffix_of_cons shorter

lemma tail?_eq_some_iff :
    text.tail? = some rest ↔ ∃ piece, Fits .one piece ∧ text = piece ++ rest := by
  constructor
  · intro taken
    cases text with
    | nil => cases taken
    | cons c text =>
      cases taken
      exact ⟨[c], ⟨c, rfl⟩, rfl⟩
  · rintro ⟨_, ⟨c, rfl⟩, rfl⟩
    rfl

lemma letter_eq_some_iff {d : Char} :
    (match text with
      | [] => none
      | c :: rest => if Text.sameLetter c d then some rest else none) = some rest ↔
      ∃ piece, Fits (.letter d) piece ∧ text = piece ++ rest := by
  constructor
  · intro taken
    cases text with
    | nil => cases taken
    | cons c text =>
      simp only [Option.ite_none_right_eq_some, Option.some.injEq] at taken
      obtain ⟨same, rfl⟩ := taken
      exact ⟨[c], ⟨c, rfl, same⟩, rfl⟩
  · rintro ⟨_, ⟨c, rfl, same⟩, rfl⟩
    exact if_pos same

lemma pairwise_rests (h : texts.Pairwise fun a b => b <:+ a) :
    (rests part texts).Pairwise fun a b => b <:+ a := by
  cases part with
  | run =>
    cases texts with
    | nil => exact .nil
    | cons text texts => exact pairwise_suffixes text
  | one =>
    refine pairwise_filterMap (fun text rest taken => ?_) h
    obtain ⟨_, ⟨c, rfl⟩, rfl⟩ := tail?_eq_some_iff.1 taken
    exact ⟨c, rfl⟩
  | letter d =>
    refine pairwise_filterMap (fun text rest taken => ?_) h
    obtain ⟨_, ⟨c, rfl, -⟩, rfl⟩ := letter_eq_some_iff.1 taken
    exact ⟨c, rfl⟩

lemma mem_rests (h : texts.Pairwise fun a b => b <:+ a) :
    rest ∈ rests part texts ↔ ∃ text ∈ texts, ∃ piece, Fits part piece ∧ text = piece ++ rest := by
  cases part with
  | run =>
    cases texts with
    | nil => simp [rests]
    | cons text texts =>
      have longest := (List.pairwise_cons.1 h).1
      rw [show rests .run (text :: texts) = suffixes text from rfl, mem_suffixes]
      constructor
      · rintro ⟨cs, split⟩
        exact ⟨text, List.mem_cons_self, cs, trivial, split⟩
      · rintro ⟨text', mem, cs, -, split⟩
        rcases List.mem_cons.1 mem with rfl | mem
        · exact ⟨cs, split⟩
        · obtain ⟨before, rfl⟩ := longest _ mem
          exact ⟨before ++ cs, by rw [split, List.append_assoc]⟩
  | one =>
    rw [rests, List.mem_filterMap]
    exact exists_congr fun text => and_congr_right fun _ => tail?_eq_some_iff
  | letter d =>
    rw [rests, List.mem_filterMap]
    exact exists_congr fun text => and_congr_right fun _ => letter_eq_some_iff

lemma nil_mem_foldl (h : texts.Pairwise fun a b => b <:+ a) :
    [] ∈ parts.foldl (fun texts part => rests part texts) texts ↔
      ∃ text ∈ texts, Cut Fits parts text := by
  induction parts generalizing texts with
  | nil => simp
  | cons part parts ih =>
    rw [List.foldl_cons, ih (pairwise_rests h)]
    simp only [mem_rests h, cut_cons]
    constructor
    · rintro ⟨rest, ⟨text, mem, piece, fits, split⟩, cut⟩
      exact ⟨text, mem, piece, rest, fits, cut, split⟩
    · rintro ⟨text, mem, piece, rest, fits, cut, split⟩
      exact ⟨rest, ⟨text, mem, piece, fits, split⟩, cut⟩

lemma covers_iff : covers parts text = true ↔ Cut Fits parts text := by
  rw [covers, List.contains_iff_mem, nil_mem_foldl (List.pairwise_singleton _ _)]
  simp

end Covers

section Parse

lemma parse_letter {d : Char} (plain : d ≠ '%' ∧ d ≠ '_' ∧ d ≠ '\\') (p : List Char) :
    parse (d :: p) = (parse p).map (.letter d :: ·) := by
  obtain ⟨noRun, noOne, noEscape⟩ := plain
  conv_lhs => unfold parse
  split <;> simp_all

lemma parse_of_satisfies (h : Satisfies p text) :
    ∃ parts, parse p = some parts ∧ Cut Fits parts text := by
  induction h with
  | nil => exact ⟨[], rfl, cut_nil.2 rfl⟩
  | run cs _ ih =>
    obtain ⟨parts, hp, cut⟩ := ih
    exact ⟨.run :: parts, by simp [parse, hp], cut_cons.2 ⟨cs, _, trivial, cut, rfl⟩⟩
  | one c _ ih =>
    obtain ⟨parts, hp, cut⟩ := ih
    exact ⟨.one :: parts, by simp [parse, hp], cut_cons.2 ⟨[c], _, ⟨c, rfl⟩, cut, rfl⟩⟩
  | @escaped c d _ _ same _ ih =>
    obtain ⟨parts, hp, cut⟩ := ih
    refine ⟨.letter d :: parts, by simp [parse, hp], ?_⟩
    exact cut_cons.2 ⟨[c], _, ⟨c, rfl, same⟩, cut, rfl⟩
  | @letter c d _ _ plain same _ ih =>
    obtain ⟨parts, hp, cut⟩ := ih
    refine ⟨.letter d :: parts, by simp [parse_letter plain, hp], ?_⟩
    exact cut_cons.2 ⟨[c], _, ⟨c, rfl, same⟩, cut, rfl⟩

lemma satisfies_of_parse (hp : parse p = some parts) (cut : Cut Fits parts text) :
    Satisfies p text := by
  fun_induction parse p generalizing parts text with
  | case1 =>
    cases hp
    obtain rfl := cut_nil.1 cut
    exact .nil
  | case2 p ih =>
    obtain ⟨parts, hp', rfl⟩ := Option.map_eq_some_iff.1 hp
    obtain ⟨cs, rest, -, cut', rfl⟩ := cut_cons.1 cut
    exact .run cs (ih hp' cut')
  | case3 p ih =>
    obtain ⟨parts, hp', rfl⟩ := Option.map_eq_some_iff.1 hp
    obtain ⟨_, rest, ⟨c, rfl⟩, cut', rfl⟩ := cut_cons.1 cut
    exact .one c (ih hp' cut')
  | case4 d p ih =>
    obtain ⟨parts, hp', rfl⟩ := Option.map_eq_some_iff.1 hp
    obtain ⟨_, rest, ⟨c, rfl, same⟩, cut', rfl⟩ := cut_cons.1 cut
    exact .escaped same (ih hp' cut')
  | case5 => cases hp
  | case6 d p noRun noOne noEscape noLast ih =>
    obtain ⟨parts, hp', rfl⟩ := Option.map_eq_some_iff.1 hp
    obtain ⟨_, rest, ⟨c, rfl, same⟩, cut', rfl⟩ := cut_cons.1 cut
    have plain : d ≠ '\\' := by
      rintro rfl
      cases p with
      | nil => exact noLast rfl rfl
      | cons c p => exact noEscape c p rfl rfl
    exact .letter ⟨noRun, noOne, plain⟩ same (ih hp' cut')

lemma satisfies_iff : Satisfies p text ↔ ∃ parts, parse p = some parts ∧ Cut Fits parts text :=
  ⟨parse_of_satisfies, fun ⟨_, hp, cut⟩ => satisfies_of_parse hp cut⟩

lemma accepts_iff_satisfies (pattern text : String) :
    accepts pattern text = true ↔ Satisfies pattern.toList text.toList := by
  simp [accepts, satisfies_iff, covers_iff, Option.any_eq_true]

lemma parse_likeChar_append (c : Char) (p : List Char) :
    parse (Mask.likeChar c ++ p) = (parse p).map (LikePart.ofChar c :: ·) := by
  unfold Mask.likeChar LikePart.ofChar
  split
  · rfl
  · split
    · rfl
    · split
      · rfl
      · rename_i plain
        simp only [not_or, Mask.likeEscape] at plain
        exact parse_letter plain p

lemma parse_flatMap_likeChar (cs : List Char) :
    parse (cs.flatMap Mask.likeChar) = some (cs.map LikePart.ofChar) := by
  induction cs with
  | nil => rfl
  | cons c cs ih => rw [List.flatMap_cons, parse_likeChar_append, ih]; rfl

end Parse

end Like

end LockRegistry.Database

namespace LockRegistry.Mask

open Database

variable {m m' : Mask} {value : String}

lemma parse_like (m : Mask) :
    Like.parse m.like.toList = some (m.pattern.toList.map LikePart.ofChar) := by
  rw [toList_like, Like.parse_flatMap_likeChar]

lemma like_injective (same : m.like = m'.like) : m.pattern = m'.pattern := by
  have parts : m.pattern.toList.map LikePart.ofChar = m'.pattern.toList.map LikePart.ofChar :=
    Option.some.inj (by rw [← parse_like, ← parse_like, same])
  have injective := Function.LeftInverse.injective LikePart.toChar_ofChar
  exact String.toList_inj.1 (List.map_injective_iff.2 injective parts)

variable [Regex.Engine]

lemma satisfies_like_iff :
    Like.Satisfies m.like.toList value.toList ↔ m.accepts value = true := by
  simp only [Like.satisfies_iff, parse_like, Option.some.injEq, exists_eq_left', Text.cut_map,
    accepts_iff_cut]
  exact Text.cut_congr LikePart.fits_ofChar_iff

theorem like_agrees (m : Mask) :
    (∃ parts, Like.parse m.like.toList = some parts) ∧
      (∀ value : String, Like.Satisfies m.like.toList value.toList ↔ m.accepts value = true) ∧
      (∀ value : String, Like.accepts m.like value = m.accepts value) ∧
      ∀ m' : Mask, m.like = m'.like ↔ m.pattern = m'.pattern := by
  refine ⟨⟨_, parse_like m⟩, fun value => satisfies_like_iff, fun value => ?_, fun m' => ?_⟩
  · rw [Bool.eq_iff_iff, Like.accepts_iff_satisfies, satisfies_like_iff]
  · exact ⟨like_injective, fun same => by rw [like, like, same]⟩

end LockRegistry.Mask
