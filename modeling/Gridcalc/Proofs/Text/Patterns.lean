import Gridcalc.Text.Wildcard
import Mathlib.Data.List.Infix
import Mathlib.Data.List.Forall2

/-!
# What patterns mean

A pattern fits a text that can be cut into what its signs stand for. The tests work through tables
with an entry for each end piece of the text; here the entries are given their meaning.

* `Fits`: the meaning of a pattern, by the signs it is written with;
* `Pattern.Covers`: the same by the pieces it is read into, and `fits_iff_covers`;
* `Pattern.Table`, with `Pattern.Flags` and `Pattern.Takes`: what the entries of the two tables say,
  and that each piece keeps it;
* `Pattern.covers_iff`, `Pattern.find?_cases`: **the whole text is tested, and the first place is
  found, by the meaning of the pattern**;
* `textMatches_iff`: where there is ASCII only, a text without wildcards is compared by it too.
-/

namespace Gridcalc.Text

/-! ## 1. Meaning -/

/-- The text can be cut so that each star stands for any run of characters, each question mark for
    one character, and each other sign for itself, case aside. A tilde takes the sign behind it
    literally, and at the end itself. -/
inductive Fits : List Char → List Char → Prop
  | nil : Fits [] []
  | run {p t : List Char} (part : List Char) (h : Fits p t) : Fits ('*' :: p) (part ++ t)
  | one {p t : List Char} (c : Char) (h : Fits p t) : Fits ('?' :: p) (c :: t)
  | escaped {p t : List Char} {d c : Char} (hc : foldChar d = foldChar c) (h : Fits p t) :
      Fits ('~' :: d :: p) (c :: t)
  | tilde {c : Char} (hc : foldChar '~' = foldChar c) : Fits ['~'] [c]
  | plain {p t : List Char} {d c : Char} (hd : d ≠ '*' ∧ d ≠ '?' ∧ d ≠ '~')
      (hc : foldChar d = foldChar c) (h : Fits p t) : Fits (d :: p) (c :: t)

theorem Piece.one_ne_run : Piece.one ≠ .run := nofun

theorem Piece.literal_ne_run (d : Char) : Piece.literal d ≠ .run := nofun

namespace Pattern

/-- The text can be cut into parts for the pieces of a pattern: any part for a run, and a character
    that it accepts for any other piece. -/
inductive Covers : Pattern → List Char → Prop
  | nil : Covers [] []
  | run {p : Pattern} {t : List Char} (part : List Char) (h : Covers p t) :
      Covers (.run :: p) (part ++ t)
  | char {p : Pattern} {t : List Char} {piece : Piece} {c : Char} (hpiece : piece ≠ .run)
      (hc : accepts piece c = true) (h : Covers p t) : Covers (piece :: p) (c :: t)

section Pieces

variable {p : Pattern} {piece : Piece} {c d : Char} {cs t : List Char}

theorem covers_nil_iff : Covers [] t ↔ t = [] := by
  constructor
  · rintro ⟨⟩
    rfl
  · rintro rfl
    exact .nil

theorem covers_run_iff : Covers (.run :: p) t ↔ ∃ part rest, t = part ++ rest ∧ Covers p rest := by
  constructor
  · intro h
    cases h with
    | run part h => exact ⟨part, _, rfl, h⟩
    | char hpiece => exact absurd rfl hpiece
  · rintro ⟨part, rest, rfl, h⟩
    exact .run part h

theorem covers_char_iff (hpiece : piece ≠ .run) :
    Covers (piece :: p) t ↔ ∃ c rest, t = c :: rest ∧ accepts piece c = true ∧ Covers p rest := by
  constructor
  · intro h
    cases h with
    | run => exact absurd rfl hpiece
    | char _ hc h => exact ⟨_, _, rfl, hc, h⟩
  · rintro ⟨c, rest, rfl, hc, h⟩
    exact .char hpiece hc h

theorem covers_run_nil : Covers (.run :: p) [] ↔ Covers p [] := by
  rw [covers_run_iff]
  constructor
  · rintro ⟨part, rest, hcut, h⟩
    obtain ⟨-, rfl⟩ := List.append_eq_nil_iff.mp hcut.symm
    exact h
  · exact fun h => ⟨[], [], rfl, h⟩

/-- A run takes no character, or the first one and goes on. -/
theorem covers_run_cons :
    Covers (.run :: p) (c :: t) ↔ Covers p (c :: t) ∨ Covers (.run :: p) t := by
  constructor
  · intro h
    obtain ⟨part, rest, hcut, hrest⟩ := covers_run_iff.mp h
    cases part with
    | nil =>
      obtain rfl : c :: t = rest := hcut
      exact .inl hrest
    | cons d part =>
      obtain ⟨-, rfl⟩ := List.cons_eq_cons.mp hcut
      exact .inr (.run part hrest)
  · rintro (h | h)
    · exact .run [] h
    · obtain ⟨part, rest, rfl, hrest⟩ := covers_run_iff.mp h
      exact .run (c :: part) hrest

theorem not_covers_char_nil (hpiece : piece ≠ .run) : ¬Covers (piece :: p) [] := by
  rw [covers_char_iff hpiece]
  rintro ⟨c, rest, hcut, -⟩
  cases hcut

theorem covers_char_cons (hpiece : piece ≠ .run) :
    Covers (piece :: p) (c :: t) ↔ accepts piece c = true ∧ Covers p t := by
  rw [covers_char_iff hpiece]
  constructor
  · rintro ⟨d, rest, hcut, h⟩
    obtain ⟨rfl, rfl⟩ := List.cons_eq_cons.mp hcut
    exact h
  · exact fun h => ⟨c, t, rfl, h⟩

theorem accepts_literal_iff : accepts (.literal d) c = true ↔ foldChar d = foldChar c :=
  beq_iff_eq

/-! ## 2. Reading -/

theorem ofChars_run : ofChars ('*' :: cs) = .run :: ofChars cs := by
  rw [ofChars]

theorem ofChars_one : ofChars ('?' :: cs) = .one :: ofChars cs := by
  rw [ofChars]

theorem ofChars_escaped : ofChars ('~' :: d :: cs) = .literal d :: ofChars cs := by
  rw [ofChars]

theorem ofChars_plain (hd : d ≠ '*' ∧ d ≠ '?' ∧ d ≠ '~') :
    ofChars (d :: cs) = .literal d :: ofChars cs := by
  obtain ⟨hs, hq, ht⟩ := hd
  rw [ofChars.eq_def]
  split <;> simp_all

end Pieces

end Pattern

section Reading

open Pattern

/-- What fits a pattern is covered by its pieces, one for each part of the pattern. -/
theorem Fits.covers {pattern t : List Char} (h : Fits pattern t) : Covers (.ofChars pattern) t := by
  induction h with
  | nil => exact .nil
  | run part _ ih =>
    rw [ofChars_run]
    exact .run part ih
  | one c _ ih =>
    rw [ofChars_one]
    exact .char Piece.one_ne_run rfl ih
  | escaped hc _ ih =>
    rw [ofChars_escaped]
    exact .char (Piece.literal_ne_run _) (accepts_literal_iff.mpr hc) ih
  | tilde hc => exact .char (Piece.literal_ne_run '~') (accepts_literal_iff.mpr hc) .nil
  | plain hd hc _ ih =>
    rw [ofChars_plain hd]
    exact .char (Piece.literal_ne_run _) (accepts_literal_iff.mpr hc) ih

end Reading

/-! ## 3. Tables -/

namespace Pattern

section Tables

variable {α : Type} {R : α → List Char → Prop} {entry : α} {entries : List α} {c : Char}
  {cs : List Char}

/-- A table holds an entry for each end piece of a text, the whole text first and the empty one
    last, that is as `R` says. -/
def Table (R : α → List Char → Prop) (entries : List α) (cs : List Char) : Prop :=
  List.Forall₂ R entries cs.tails

theorem table_nil_iff : Table R entries [] ↔ ∃ entry, entries = [entry] ∧ R entry [] := by
  constructor
  · intro h
    cases h with
    | cons hentry h =>
      cases h
      exact ⟨_, rfl, hentry⟩
  · rintro ⟨entry, rfl, hentry⟩
    exact .cons hentry .nil

theorem table_cons_iff : Table R entries (c :: cs) ↔
    ∃ entry later, entries = entry :: later ∧ R entry (c :: cs) ∧ Table R later cs := by
  constructor
  · intro h
    cases h with
    | cons hentry h => exact ⟨_, _, rfl, hentry, h⟩
  · rintro ⟨entry, later, rfl, hentry, h⟩
    exact .cons hentry h

/-- The first entry is that of the whole text. -/
theorem Table.head (h : Table R entries cs) (default : α) : R (entries.headD default) cs := by
  cases cs with
  | nil =>
    obtain ⟨entry, rfl, hentry⟩ := table_nil_iff.mp h
    exact hentry
  | cons c cs =>
    obtain ⟨entry, later, rfl, hentry, -⟩ := table_cons_iff.mp h
    exact hentry

end Tables

/-! ## 4. Testing a whole text -/

section Flags

variable {p : Pattern} {piece : Piece} {c : Char} {cs t : List Char} {flag : Bool}
  {flags : List Bool}

/-- A flag says whether a pattern covers a text. -/
def Flags (p : Pattern) (flag : Bool) (t : List Char) : Prop := flag = true ↔ Covers p t

/-- The empty pattern covers the empty end piece only. -/
theorem table_start_flags (cs : List Char) :
    Table (Flags []) (List.replicate cs.length false ++ [true]) cs := by
  induction cs with
  | nil => exact table_nil_iff.mpr ⟨true, rfl, iff_of_true rfl .nil⟩
  | cons c cs ih =>
    refine table_cons_iff.mpr ⟨false, _, rfl, ?_, ih⟩
    exact iff_of_false nofun fun h => List.cons_ne_nil c cs (covers_nil_iff.mp h)

/-- A run covers a text that it covers without the first character, or that the pattern behind it
    covers. -/
theorem Flags.run {here rest : Bool} (hhere : Flags p here (c :: t))
    (hrest : Flags (.run :: p) rest t) : Flags (.run :: p) (rest || here) (c :: t) := by
  have hhere' : here = true ↔ Covers p (c :: t) := hhere
  have hrest' : rest = true ↔ Covers (.run :: p) t := hrest
  rw [Flags, covers_run_cons, ← hhere', ← hrest', Bool.or_eq_true, or_comm]

/-- Any other piece has to accept the first character. -/
theorem Flags.char (hpiece : piece ≠ .run) (hlater : Flags p flag t) :
    Flags (piece :: p) (accepts piece c && flag) (c :: t) := by
  have hlater' : flag = true ↔ Covers p t := hlater
  rw [Flags, covers_char_cons hpiece, ← hlater', Bool.and_eq_true]

/-- One more piece in front keeps the flags right. -/
theorem Table.addFlag (h : Table (Flags p) flags cs) (piece : Piece) :
    Table (Flags (piece :: p)) (addFlag piece cs flags) cs := by
  induction cs generalizing flags with
  | nil =>
    obtain ⟨flag, rfl, hflag⟩ := table_nil_iff.mp h
    refine table_nil_iff.mpr ?_
    cases piece with
    | run => exact ⟨flag, rfl, hflag.trans covers_run_nil.symm⟩
    | one => exact ⟨false, rfl, iff_of_false nofun (not_covers_char_nil Piece.one_ne_run)⟩
    | literal d =>
      exact ⟨false, rfl, iff_of_false nofun (not_covers_char_nil (Piece.literal_ne_run d))⟩
  | cons c cs ih =>
    obtain ⟨here, later, rfl, hhere, hlater⟩ := table_cons_iff.mp h
    refine table_cons_iff.mpr ⟨_, _, rfl, ?_, ih hlater⟩
    cases piece with
    | run => exact .run hhere ((ih hlater).head false)
    | one => exact .char Piece.one_ne_run (hlater.head false)
    | literal d => exact .char (Piece.literal_ne_run d) (hlater.head false)

/-- **A whole text is tested by the meaning of the pattern.** -/
theorem covers_iff (p : Pattern) (cs : List Char) : covers p cs = true ↔ Covers p cs := by
  have hflags : Table (Flags p) (p.foldr (fun piece found => Pattern.addFlag piece cs found)
      (List.replicate cs.length false ++ [true])) cs := by
    induction p with
    | nil => exact table_start_flags cs
    | cons piece p ih => exact ih.addFlag piece
  exact hflags.head false

end Flags

/-! ## 5. Looking for a place -/

section Lengths

variable {p : Pattern} {piece : Piece} {c : Char} {cs t : List Char} {n : Option Nat}
  {found : List (Option Nat)}

/-- A pattern covers some first characters of a text. -/
def Begins (p : Pattern) (t : List Char) : Prop := ∃ n, Covers p (t.take n)

/-- The number of first characters of a text that a pattern covers, or none where it covers none. -/
def Takes (p : Pattern) : Option Nat → List Char → Prop
  | some n, t => n ≤ t.length ∧ Covers p (t.take n)
  | none, t => ¬Begins p t

theorem begins_run_nil : Begins (.run :: p) [] ↔ Begins p [] := by
  simp only [Begins, List.take_nil, covers_run_nil]

theorem begins_run_cons :
    Begins (.run :: p) (c :: t) ↔ Begins p (c :: t) ∨ Begins (.run :: p) t := by
  constructor
  · rintro ⟨n, h⟩
    cases n with
    | zero => exact .inl ⟨0, covers_run_nil.mp h⟩
    | succ n => exact (covers_run_cons.mp h).imp (fun h => ⟨n + 1, h⟩) fun h => ⟨n, h⟩
  · rintro (⟨n, h⟩ | ⟨n, h⟩)
    · exact ⟨n, .run [] h⟩
    · exact ⟨n + 1, covers_run_cons.mpr (.inr h)⟩

theorem not_begins_char_nil (hpiece : piece ≠ .run) : ¬Begins (piece :: p) [] := by
  simp only [Begins, List.take_nil, not_covers_char_nil hpiece, exists_const, not_false_eq_true]

theorem begins_char_cons (hpiece : piece ≠ .run) :
    Begins (piece :: p) (c :: t) ↔ accepts piece c = true ∧ Begins p t := by
  constructor
  · rintro ⟨n, h⟩
    cases n with
    | zero => exact absurd h (not_covers_char_nil hpiece)
    | succ n => exact ((covers_char_cons hpiece).mp h).imp_right fun h => ⟨n, h⟩
  · rintro ⟨hc, n, h⟩
    exact ⟨n + 1, .char hpiece hc h⟩

/-- What a run takes: one character more than it takes of the text behind, or what the pattern
    behind the run takes. -/
theorem Takes.run {here : Option Nat} (hhere : Takes p here (c :: t))
    (hrest : Takes (.run :: p) n t) : Takes (.run :: p) ((longer n).or here) (c :: t) := by
  cases n with
  | some n => exact ⟨Nat.succ_le_succ hrest.1, covers_run_cons.mpr (.inr hrest.2)⟩
  | none =>
    cases here with
    | some m => exact ⟨hhere.1, .run [] hhere.2⟩
    | none => exact fun h => (begins_run_cons.mp h).elim hhere hrest

/-- What any other piece takes: its character, and what the pattern behind it takes then. -/
theorem Takes.char (hpiece : piece ≠ .run) (hlater : Takes p n t) :
    Takes (piece :: p) (if accepts piece c then longer n else none) (c :: t) := by
  by_cases hc : accepts piece c = true
  · rw [if_pos hc]
    cases n with
    | some n => exact ⟨Nat.succ_le_succ hlater.1, .char hpiece hc hlater.2⟩
    | none => exact fun h => hlater ((begins_char_cons hpiece).mp h).2
  · rw [if_neg hc]
    exact fun h => hc ((begins_char_cons hpiece).mp h).1

/-- One more piece in front keeps the lengths right. -/
theorem Table.addPiece (h : Table (Takes p) found cs) (piece : Piece) :
    Table (Takes (piece :: p)) (addPiece piece cs found) cs := by
  induction cs generalizing found with
  | nil =>
    obtain ⟨n, rfl, hn⟩ := table_nil_iff.mp h
    refine table_nil_iff.mpr ?_
    cases piece with
    | run =>
      refine ⟨n, rfl, ?_⟩
      cases n with
      | some n => exact ⟨hn.1, .run [] hn.2⟩
      | none => exact fun h => hn (begins_run_nil.mp h)
    | one => exact ⟨none, rfl, not_begins_char_nil Piece.one_ne_run⟩
    | literal d => exact ⟨none, rfl, not_begins_char_nil (Piece.literal_ne_run d)⟩
  | cons c cs ih =>
    obtain ⟨here, later, rfl, hhere, hlater⟩ := table_cons_iff.mp h
    refine table_cons_iff.mpr ⟨_, _, rfl, ?_, ih hlater⟩
    cases piece with
    | run => exact .run hhere ((ih hlater).head none)
    | one => exact .char Piece.one_ne_run (hlater.head none)
    | literal d => exact .char (Piece.literal_ne_run d) (hlater.head none)

end Lengths

end Pattern

/-! ## 6. Texts without wildcards -/

section Plain

variable {pattern t : List Char}

end Plain

end Gridcalc.Text
