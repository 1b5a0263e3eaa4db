import Gridcalc.Value.Picture
import Mathlib.Algebra.Group.Nat.Even
import Mathlib.Data.List.Induction
import Mathlib.Data.List.TakeWhile
import Mathlib.Data.Nat.Bits

/-!
# Sections of a picture

A picture is cut into sections by one reader and read piece by piece by another one. Both pass over
quotes and backslashes, but only the first takes a backslash in quotes for an escape.

* `pieceTexts`, `readSections`: the pieces with their characters, and the sections that they make;
* `SectionScanner`: a reader that goes over a picture character by character; `splitScanner` and
  `pieceScanner` are the two readers in this form;
* `PieceShape`: what the characters of one piece are;
* `agree_scanners`: how the states of the two readers differ behind the same characters;
* `splitSections_eq_iff`: **a picture is cut where its pieces say, unless a semicolon stands behind
  an odd number of quoted runs that end in an escaped quote**.
-/

namespace Gridcalc

/-! ## 1. Pieces with their characters -/

/-- The pieces of a picture, each with the characters that it is read from. -/
def pieceTexts : List Char → List (PicturePiece × List Char)
  | [] => []
  | c :: cs =>
    ((readPiece c cs).1, c :: cs.take (readPiece c cs).2) :: pieceTexts (cs.drop (readPiece c cs).2)
termination_by cs => cs.length
decreasing_by simp only [List.length_drop, List.length_cons]; omega

/-- The sections of a picture in which every piece is whole: it is cut at the semicolons that are
    pieces of their own. -/
def readSections (cs : List Char) : List (List Char) :=
  ((pieceTexts cs).splitOnP fun piece => piece.2 = [';']).map fun pieces =>
    pieces.flatMap Prod.snd

/-- Whether a text ends in an odd number of backslashes, so that the last of them escapes what
    follows. -/
def endsEscaping (cs : List Char) : Bool := (cs.reverse.takeWhile (· = '\\')).length % 2 = 1

/-- Whether these are the characters of a run in quotes that ends in an escaped quote. -/
def endsInEscapedQuote (cs : List Char) : Bool :=
  cs.head? = some '"' && cs.getLast? = some '"' && endsEscaping cs.dropLast

/-- How many runs in quotes end in an escaped quote. -/
def escapedClosings (cs : List Char) : Nat :=
  (pieceTexts cs).countP fun piece => endsInEscapedQuote piece.2

/-- The pieces are those that are shown. -/
theorem map_fst_pieceTexts (cs : List Char) : (pieceTexts cs).map Prod.fst = readPieces cs := by
  fun_induction pieceTexts cs with
  | case1 => rw [readPieces, List.map_nil]
  | case2 c cs ih => rw [readPieces, List.map_cons, ih]

/-- Every character belongs to a piece. -/
theorem flatMap_snd_pieceTexts (cs : List Char) : (pieceTexts cs).flatMap Prod.snd = cs := by
  fun_induction pieceTexts cs with
  | case1 => rfl
  | case2 c cs ih => rw [List.flatMap_cons, ih, List.cons_append, List.take_append_drop]

/-! ## 2. Scanners -/

/-- A reader that goes over a picture character by character, and tells in which states a semicolon
    separates sections. -/
structure SectionScanner (σ : Type) where
  next : σ → Char → σ
  cuts : σ → Bool

namespace SectionScanner

variable {σ τ : Type}

/-- The state behind some characters. -/
def after (m : SectionScanner σ) (a : σ) (cs : List Char) : σ := cs.foldl m.next a

/-- The sections of a picture. -/
def sections (m : SectionScanner σ) : σ → List Char → List (List Char)
  | _, [] => [[]]
  | a, c :: cs =>
    if c = ';' && m.cuts a then [] :: m.sections (m.next a c) cs
    else consSection c (m.sections (m.next a c) cs)

variable {m : SectionScanner σ} {m' : SectionScanner τ} {a : σ} {b : τ}

@[simp] theorem after_nil (m : SectionScanner σ) (a : σ) : m.after a [] = a := rfl

@[simp] theorem after_cons (m : SectionScanner σ) (a : σ) (c : Char) (cs : List Char) :
    m.after a (c :: cs) = m.after (m.next a c) cs := rfl

theorem after_append (m : SectionScanner σ) (a : σ) (cs ds : List Char) :
    m.after a (cs ++ ds) = m.after (m.after a cs) ds := List.foldl_append

theorem consSection_eq {ss : List (List Char)} (h : ss ≠ []) (c : Char) :
    consSection c ss = ss.modifyHead (c :: ·) := by
  cases ss with
  | nil => exact absurd rfl h
  | cons cs ss => rfl

theorem sections_ne_nil (m : SectionScanner σ) (a : σ) (cs : List Char) : m.sections a cs ≠ [] := by
  cases cs with
  | nil => exact List.cons_ne_nil _ _
  | cons c cs =>
    unfold sections
    split
    · exact List.cons_ne_nil _ _
    · cases m.sections (m.next a c) cs <;> exact List.cons_ne_nil _ _

/-- The sections with semicolons between them are the picture. -/
theorem intercalate_sections (m : SectionScanner σ) (a : σ) (cs : List Char) :
    [';'].intercalate (m.sections a cs) = cs := by
  induction cs generalizing a with
  | nil => rfl
  | cons c cs ih =>
    have hrest := ih (m.next a c)
    obtain ⟨s, ss, hss⟩ := List.exists_cons_of_ne_nil (m.sections_ne_nil (m.next a c) cs)
    rw [hss] at hrest
    unfold sections
    rw [hss]
    split
    · rename_i hc
      rw [Bool.and_eq_true, decide_eq_true_eq] at hc
      rw [List.intercalate_cons_cons, hrest, hc.1]
      rfl
    · show [';'].intercalate ((c :: s) :: ss) = c :: cs
      rw [← hrest]
      cases ss <;> simp [List.intercalate]

/-- Two scanners find the same sections just if they agree at every semicolon. -/
theorem sections_eq_iff {cs : List Char} : m.sections a cs = m'.sections b cs ↔
    ∀ before rest, cs = before ++ ';' :: rest →
      m.cuts (m.after a before) = m'.cuts (m'.after b before) := by
  induction cs generalizing a b with
  | nil => simp [sections]
  | cons c cs ih =>
    have hstep : m.sections a (c :: cs) = m'.sections b (c :: cs) ↔
        (c = ';' → m.cuts a = m'.cuts b) ∧
          m.sections (m.next a c) cs = m'.sections (m'.next b c) cs := by
      obtain ⟨s, ss, hss⟩ := List.exists_cons_of_ne_nil (m.sections_ne_nil (m.next a c) cs)
      obtain ⟨t, ts, hts⟩ := List.exists_cons_of_ne_nil (m'.sections_ne_nil (m'.next b c) cs)
      rw [sections, sections, hss, hts]
      by_cases hc : c = ';' <;> cases m.cuts a <;> cases m'.cuts b <;> simp [hc, consSection]
    rw [hstep, ih]
    constructor
    · intro h before rest hcs
      obtain ⟨hhere, hlater⟩ := h
      cases before with
      | nil =>
        cases hcs
        exact hhere rfl
      | cons d before =>
        cases hcs
        exact hlater before rest rfl
    · intro h
      refine ⟨fun hc => h [] cs (by rw [hc]; rfl), fun before rest hcs => ?_⟩
      exact h (c :: before) rest (by rw [hcs]; rfl)

/-- In front of characters that separate nothing the sections go on. -/
theorem sections_append {cs : List Char} (ds : List Char)
    (h : ∀ before rest, cs = before ++ ';' :: rest → m.cuts (m.after a before) = false) :
    m.sections a (cs ++ ds) = (m.sections (m.after a cs) ds).modifyHead (cs ++ ·) := by
  induction cs generalizing a with
  | nil =>
    obtain ⟨s, ss, hss⟩ := List.exists_cons_of_ne_nil (m.sections_ne_nil a ds)
    rw [List.nil_append, after_nil, hss]
    rfl
  | cons c cs ih =>
    have hhere : (decide (c = ';') && m.cuts a) = false := by
      by_cases hc : c = ';'
      · have hcut : m.cuts a = false := h [] cs (by rw [hc]; rfl)
        rw [hcut, Bool.and_false]
      · rw [decide_eq_false hc, Bool.false_and]
    rw [List.cons_append, sections, hhere, if_neg Bool.false_ne_true,
      ih fun before rest hcs => h (c :: before) rest (by rw [hcs]; rfl), after_cons,
      consSection_eq]
    · cases m.sections (m.after (m.next a c) cs) ds <;> rfl
    · rw [ne_eq, List.modifyHead_eq_nil_iff]
      exact m.sections_ne_nil _ ds

end SectionScanner

open SectionScanner

/-! ## 3. The two readers -/

/-- Where the reader of sections stands: in quotes or not, and behind a backslash that escapes what
    follows or not. -/
structure Quoting where
  quoted : Bool
  escaped : Bool

def Quoting.next : Quoting → Char → Quoting
  | ⟨quoted, true⟩, _ => ⟨quoted, false⟩
  | ⟨quoted, false⟩, c =>
    if c = '\\' then ⟨quoted, true⟩ else if c = '"' then ⟨!quoted, false⟩ else ⟨quoted, false⟩

/-- The reader of sections. -/
def splitScanner : SectionScanner Quoting := ⟨Quoting.next, fun q => !q.quoted && !q.escaped⟩

/-- Where the reader of pieces stands. -/
inductive Reading where
  | plain
  /-- Behind a backslash outside of quotes. -/
  | escaped
  | quoted
  deriving DecidableEq

def Reading.next : Reading → Char → Reading
  | .plain, c => if c = '"' then .quoted else if c = '\\' then .escaped else .plain
  | .escaped, _ => .plain
  | .quoted, c => if c = '"' then .plain else .quoted

/-- The reader of pieces. -/
def pieceScanner : SectionScanner Reading := ⟨Reading.next, (· = .plain)⟩

theorem ne_backslash {c : Char} {cs : List Char} (hlone : c = '\\' → cs = [] → False)
    (hescape : ∀ d ds, c = '\\' → cs = d :: ds → False) : c ≠ '\\' := by
  intro hc
  cases cs with
  | nil => exact hlone hc rfl
  | cons d ds => exact hescape d ds hc rfl

theorem splitSections_eq (quoted : Bool) (cs : List Char) :
    splitSections quoted cs = splitScanner.sections ⟨quoted, false⟩ cs := by
  fun_induction splitSections quoted cs with
  | case1 => rfl
  | case2 => rfl
  | case3 quoted c cs ih => simp [sections, splitScanner, Quoting.next, ih]
  | case4 quoted cs _ _ ih => simp [sections, splitScanner, Quoting.next, ih]
  | case5 quoted c cs hlone hescape hquote hcut ih =>
    have hbackslash := ne_backslash hlone hescape
    simp only [Bool.and_eq_true, decide_eq_true_eq, Bool.not_eq_true'] at hcut
    obtain ⟨rfl, rfl⟩ := hcut
    rw [ih]
    rfl
  | case6 quoted c cs hlone hescape hquote hcut ih =>
    have hbackslash := ne_backslash hlone hescape
    have hstep : splitScanner.next ⟨quoted, false⟩ c = ⟨quoted, false⟩ := by
      simp [splitScanner, Quoting.next, hbackslash, hquote]
    have hcuts : splitScanner.cuts ⟨quoted, false⟩ = !quoted := by simp [splitScanner]
    rw [sections, hstep, hcuts, if_neg hcut, ih]

/-! ## 4. The characters of a piece -/

/-- A character that means nothing to either reader. -/
def IsCommon (c : Char) : Prop := c ∉ ['"', '\\', ';']

/-- The characters of a piece in front of the rest of a picture. -/
inductive PieceShape : List Char → List Char → Prop
  | closed {text : List Char} (rest : List Char) (h : '"' ∉ text) :
      PieceShape ('"' :: (text ++ ['"'])) rest
  | unclosed {text : List Char} (h : '"' ∉ text) : PieceShape ('"' :: text) []
  | escape (c : Char) (rest : List Char) : PieceShape ['\\', c] rest
  | lone : PieceShape ['\\'] []
  | semicolon (rest : List Char) : PieceShape [';'] rest
  | common {cs : List Char} (rest : List Char) (h : ∀ c ∈ cs, IsCommon c) : PieceShape cs rest

theorem isCommon_of_isDigitSign {c : Char} (h : isDigitSign c = true) : IsCommon c := by
  intro hc
  simp only [List.mem_cons, List.not_mem_nil, or_false] at hc
  rcases hc with rfl | rfl | rfl <;> cases h

/-- A change of case leaves the other characters alone. -/
theorem isCommon_of_image {f : Char → Char} (hf : (['"', '\\', ';'].all fun s => f s = s) = true)
    {c : Char} (h : IsCommon (f c)) : IsCommon c := by
  intro hc
  have hsame : f c = c := of_decide_eq_true (List.all_eq_true.mp hf c hc)
  exact h (by rwa [hsame])

theorem isCommon_of_mem_takeDigits (cs : List Char) :
    ∀ c ∈ cs.take (takeDigits cs).2, IsCommon c := by
  fun_induction takeDigits cs with
  | case1 => exact fun c hc => nomatch hc
  | case2 c h => simpa using isCommon_of_isDigitSign h
  | case3 => simp
  | case4 c sign cs hc ds n hds ih =>
    rw [hds] at ih
    simp only [List.take_succ_cons, List.forall_mem_cons]
    exact ⟨isCommon_of_isDigitSign hc, ih⟩
  | case5 c sign cs hc hexp ds n hds ih =>
    rw [hds] at ih
    simp only [List.take_succ_cons, List.forall_mem_cons]
    have hletter : IsCommon c := by
      rcases hexp.1 with rfl | rfl <;> unfold IsCommon <;> decide
    have hsign : IsCommon sign := by
      rcases hexp.2 with rfl | rfl <;> unfold IsCommon <;> decide
    exact ⟨hletter, hsign, ih⟩
  | case6 => simp

theorem takeDigits_pos {c : Char} (h : isDigitSign c = true) (cs : List Char) :
    0 < (takeDigits (c :: cs)).2 := by
  cases cs <;> simp [takeDigits, h]

/-- The letter of a part of a date, in either case. -/
theorem isCommon_of_datePartOf? {c d : Char} {code : DatePart} (h : datePartOf? c = some code)
    (hd : d.toLower = c.toLower) : IsCommon d := by
  refine isCommon_of_image (f := Char.toLower) (by decide) ?_
  rw [hd]
  unfold datePartOf? at h
  split at h
  case h_6 => cases h
  all_goals
    rename_i hc
    rw [hc]
    unfold IsCommon
    decide

/-- What is in quotes ends behind the next quote, or with the section. -/
theorem pieceShape_quoted (cs : List Char) :
    PieceShape ('"' :: cs.take ((cs.takeWhile (· ≠ '"')).length + 1))
      (cs.drop ((cs.takeWhile (· ≠ '"')).length + 1)) := by
  have htext : '"' ∉ cs.takeWhile (· ≠ '"') := fun hmem => by
    simpa using List.mem_takeWhile_imp hmem
  have hcs : cs.takeWhile (· ≠ '"') ++ cs.dropWhile (· ≠ '"') = cs :=
    List.takeWhile_append_dropWhile
  generalize cs.takeWhile (· ≠ '"') = text at htext hcs ⊢
  cases hrest : cs.dropWhile (· ≠ '"') with
  | nil =>
    rw [hrest, List.append_nil] at hcs
    rw [List.take_of_length_le (by rw [← hcs]; omega),
      List.drop_of_length_le (by rw [← hcs]; omega), ← hcs]
    exact .unclosed htext
  | cons d rest =>
    have hd : d = '"' := by
      have hhead := List.head?_dropWhile_not (· ≠ '"') cs
      rw [hrest] at hhead
      simpa using hhead
    rw [hrest, hd] at hcs
    rw [← hcs, List.take_length_add_append, List.drop_length_add_append]
    exact .closed rest htext

theorem pieceShape_readPiece (c : Char) (cs : List Char) :
    PieceShape (c :: cs.take (readPiece c cs).2) (cs.drop (readPiece c cs).2) := by
  fun_cases readPiece c cs with
  | case1 hc text =>
    rw [hc]
    exact pieceShape_quoted cs
  | case2 _ hc =>
    rw [hc]
    cases cs with
    | nil => exact .lone
    | cons d rest => exact .escape d rest
  | case3 _ _ hc ds n hds =>
    have hn : n = (takeDigits (c :: cs)).2 := by rw [hds]
    have hpos : 0 < n := hn ▸ takeDigits_pos hc cs
    have hdigits := isCommon_of_mem_takeDigits (c :: cs)
    rw [← hn, ← Nat.sub_add_cancel hpos] at hdigits
    exact .common _ hdigits
  | case4 _ _ _ hc =>
    refine .common _ fun d hd => ?_
    rw [List.mem_singleton.mp hd, hc]
    unfold IsCommon
    decide
  | case5 _ _ _ _ hhalf =>
    refine .common _ fun d hd => isCommon_of_image (f := Char.toUpper) (by decide) ?_
    have hmem : d.toUpper ∈ "AM/PM".toList := hhalf ▸ List.mem_map_of_mem hd
    have hletters : ∀ c ∈ "AM/PM".toList, c ∉ ['"', '\\', ';'] := by simp
    exact hletters _ hmem
  | case6 _ _ _ _ _ code hcode n =>
    refine .common _ fun d hd => ?_
    rcases List.mem_cons.mp hd with rfl | hd
    · exact isCommon_of_datePartOf? hcode rfl
    · have htake : cs.take n = cs.takeWhile fun d => d.toLower == c.toLower :=
        (List.prefix_iff_eq_take.mp (List.takeWhile_prefix _)).symm
      rw [htake] at hd
      exact isCommon_of_datePartOf? hcode (by simpa using List.mem_takeWhile_imp hd)
  | case7 hquote hbackslash _ _ _ _ =>
    by_cases hc : c = ';'
    · rw [hc]
      exact .semicolon _
    · refine .common _ fun d hd => ?_
      rw [List.mem_singleton.mp hd]
      simp [IsCommon, hquote, hbackslash, hc]

/-! ## 5. The readers at one piece -/

section Pieces

variable {cs ds text rest : List Char} {d : Bool}

/-- Characters of no meaning leave a reader in its state, outside of quotes. -/
theorem after_common (h : ∀ c ∈ cs, IsCommon c) :
    splitScanner.after ⟨d, false⟩ cs = ⟨d, false⟩ ∧ pieceScanner.after .plain cs = .plain := by
  induction cs with
  | nil => exact ⟨rfl, rfl⟩
  | cons c cs ih =>
    obtain ⟨hc, hcs⟩ := List.forall_mem_cons.mp h
    simp only [IsCommon, List.mem_cons, List.not_mem_nil, or_false, not_or] at hc
    obtain ⟨hquote, hbackslash, -⟩ := hc
    have hsplit : splitScanner.next ⟨d, false⟩ c = ⟨d, false⟩ := by
      simp [splitScanner, Quoting.next, hquote, hbackslash]
    have hpiece : pieceScanner.next .plain c = .plain := by
      simp [pieceScanner, Reading.next, hquote, hbackslash]
    rw [after_cons, after_cons, hsplit, hpiece]
    exact ih hcs

/-- In quotes the reader of pieces goes on to the next quote. -/
theorem after_quoted (h : '"' ∉ text) : pieceScanner.after .quoted text = .quoted := by
  induction text with
  | nil => rfl
  | cons c text ih =>
    rw [List.mem_cons, not_or] at h
    have hnext : pieceScanner.next .quoted c = .quoted := if_neg fun e => h.1 e.symm
    rw [after_cons, hnext]
    exact ih h.2

theorem endsEscaping_append (cs : List Char) (c : Char) :
    endsEscaping (cs ++ [c]) = (decide (c = '\\') && !endsEscaping cs) := by
  unfold endsEscaping
  rw [List.reverse_append, List.reverse_singleton, List.singleton_append, List.takeWhile_cons]
  by_cases hc : c = '\\'
  · rw [if_pos (decide_eq_true hc), List.length_cons, decide_eq_true hc, Bool.true_and,
      ← decide_not, decide_eq_decide]
    omega
  · rw [if_neg (by simpa using hc), decide_eq_false hc, Bool.false_and]
    rfl

/-- For the reader of sections the next character is escaped just behind an odd number of
    backslashes, in quotes or not. -/
theorem escaped_after (d : Bool) (cs : List Char) :
    (splitScanner.after ⟨d, false⟩ cs).escaped = endsEscaping cs := by
  induction cs using List.reverseRecOn with
  | nil => rfl
  | append_singleton cs c ih =>
    rw [after_append, endsEscaping_append, ← ih]
    generalize splitScanner.after ⟨d, false⟩ cs = q
    obtain ⟨quoted, _ | _⟩ := q
    · by_cases hc : c = '\\' <;> by_cases hquote : c = '"' <;>
        simp [splitScanner, Quoting.next, hc, hquote]
    · simp [splitScanner, Quoting.next]

/-- Without a quote the reader of sections stays in quotes, or outside of them. -/
theorem quoted_after (h : '"' ∉ text) (q : Quoting) :
    (splitScanner.after q text).quoted = q.quoted := by
  induction text generalizing q with
  | nil => rfl
  | cons c text ih =>
    rw [List.mem_cons, not_or] at h
    rw [after_cons, ih h.2]
    have hquote : c ≠ '"' := fun e => h.1 e.symm
    obtain ⟨quoted, _ | _⟩ := q
    · by_cases hc : c = '\\' <;> simp [splitScanner, Quoting.next, hc, hquote]
    · rfl

theorem after_text (h : '"' ∉ text) (d : Bool) :
    splitScanner.after ⟨d, false⟩ text = ⟨d, endsEscaping text⟩ := by
  have hquoted := quoted_after h ⟨d, false⟩
  have hescaped := escaped_after d text
  generalize splitScanner.after ⟨d, false⟩ text = q at *
  cases q
  simp_all

/-- Behind a quote the count of backslashes starts anew. -/
theorem endsEscaping_quote (text : List Char) :
    endsEscaping ('"' :: text) = endsEscaping text := by
  rw [← escaped_after false, ← escaped_after true]
  rfl

theorem endsInEscapedQuote_closed (text : List Char) :
    endsInEscapedQuote ('"' :: (text ++ ['"'])) = endsEscaping text := by
  unfold endsInEscapedQuote
  rw [← List.cons_append, List.getLast?_append, List.dropLast_concat, endsEscaping_quote]
  rfl

theorem endsInEscapedQuote_unclosed (h : '"' ∉ text) :
    endsInEscapedQuote ('"' :: text) = false := by
  rcases List.eq_nil_or_concat text with rfl | ⟨front, c, rfl⟩
  · rfl
  · have hc : c ≠ '"' := fun e => h (by simp [e])
    unfold endsInEscapedQuote
    rw [List.concat_eq_append, ← List.cons_append, List.getLast?_concat]
    simp [hc]

theorem endsInEscapedQuote_of_head (h : cs.head? ≠ some '"') : endsInEscapedQuote cs = false := by
  unfold endsInEscapedQuote
  rw [decide_eq_false h, Bool.false_and, Bool.false_and]

/-- The states of the two readers behind the same characters: they tell the same about quotes, or
    the opposite. -/
structure Agree (opposite : Bool) (q : Quoting) (r : Reading) : Prop where
  quoted : q.quoted = (decide (r = .quoted) ^^ opposite)
  plain : r = .plain → q.escaped = false
  escaped : r = .escaped → q.escaped = true

/-- **Behind a piece both readers stand outside of it**, or the picture ends in it. They tell the
    opposite about quotes behind a run that ends in an escaped quote. -/
theorem PieceShape.after (h : PieceShape cs rest) (d : Bool) :
    (splitScanner.after ⟨d, false⟩ cs = ⟨d ^^ endsInEscapedQuote cs, false⟩ ∧
      pieceScanner.after .plain cs = .plain) ∨
    rest = [] ∧ endsInEscapedQuote cs = false ∧
      Agree d (splitScanner.after ⟨d, false⟩ cs) (pieceScanner.after .plain cs) := by
  cases h with
  | @closed text rest htext =>
    refine .inl ⟨?_, ?_⟩
    · have hopen : splitScanner.next ⟨d, false⟩ '"' = ⟨!d, false⟩ := rfl
      rw [endsInEscapedQuote_closed, after_cons, hopen, after_append, after_text htext]
      cases endsEscaping text <;> cases d <;> rfl
    · have hopen : pieceScanner.next .plain '"' = .quoted := rfl
      rw [after_cons, hopen, after_append, after_quoted htext]
      rfl
  | @unclosed text htext =>
    have hsplit : splitScanner.after ⟨d, false⟩ ('"' :: text) = ⟨!d, endsEscaping text⟩ :=
      after_text htext !d
    have hpiece : pieceScanner.after .plain ('"' :: text) = .quoted := after_quoted htext
    refine .inr ⟨rfl, endsInEscapedQuote_unclosed htext, ?_⟩
    rw [hsplit, hpiece]
    exact ⟨(Bool.true_xor d).symm, nofun, nofun⟩
  | escape c rest =>
    refine .inl ⟨?_, rfl⟩
    rw [endsInEscapedQuote_of_head (by simp), Bool.xor_false]
    rfl
  | lone => exact .inr ⟨rfl, rfl, ⟨(Bool.false_xor d).symm, nofun, fun _ => rfl⟩⟩
  | semicolon rest =>
    refine .inl ⟨?_, rfl⟩
    rw [endsInEscapedQuote_of_head (by simp), Bool.xor_false]
    rfl
  | common rest hcommon =>
    obtain ⟨hsplit, hpiece⟩ := after_common (d := d) hcommon
    refine .inl ⟨?_, hpiece⟩
    have hhead : cs.head? ≠ some '"' := fun h => hcommon _ (List.mem_of_head? h) (by simp)
    rw [hsplit, endsInEscapedQuote_of_head hhead, Bool.xor_false]

/-- Inside a piece nothing is a semicolon outside of quotes that no backslash escapes, unless the
    semicolon is the piece. -/
theorem PieceShape.not_cuts (h : PieceShape cs rest) (hne : cs ≠ [';']) :
    ∀ before more, cs = before ++ ';' :: more →
      pieceScanner.cuts (pieceScanner.after .plain before) = false := by
  intro before more hcs
  cases h with
  | @closed text rest htext =>
    cases before with
    | nil => cases hcs
    | cons c before =>
      -- what stands in front of the semicolon is a part of the text
      obtain ⟨rfl, hbody⟩ := List.cons.inj hcs
      have hfront : before <+: text := by
        rcases List.append_eq_append_iff.mp hbody with ⟨more', hbefore, hquote⟩ | ⟨more', htext', -⟩
        · cases more' with
          | nil => exact hbefore ▸ (List.append_nil text).symm ▸ List.prefix_refl _
          | cons d more' =>
            cases more' <;> cases hquote
        · exact ⟨more', htext'.symm⟩
      rw [after_cons]
      have hbefore := after_quoted fun hmem => htext (hfront.subset hmem)
      show pieceScanner.cuts (pieceScanner.after .quoted before) = false
      rw [hbefore]
      rfl
  | @unclosed text htext =>
    cases before with
    | nil => cases hcs
    | cons c before =>
      obtain ⟨rfl, hbody⟩ := List.cons.inj hcs
      have hbefore : pieceScanner.after .quoted before = .quoted :=
        after_quoted fun hmem => htext (by simp [hbody, hmem])
      show pieceScanner.cuts (pieceScanner.after .quoted before) = false
      rw [hbefore]
      rfl
  | escape c rest =>
    rcases before with _ | ⟨d, _ | ⟨e, before⟩⟩
    · cases hcs
    · cases hcs
      rfl
    · cases before <;> cases hcs
  | lone =>
    rcases before with _ | ⟨d, _ | ⟨e, before⟩⟩ <;> cases hcs
  | semicolon rest => exact absurd rfl hne
  | common rest hcommon => exact absurd (hcommon ';' (by simp [hcs])) (by unfold IsCommon; decide)

/-! ## 6. Whole pictures -/

theorem append_piece (c : Char) (cs : List Char) :
    c :: cs.take (readPiece c cs).2 ++ cs.drop (readPiece c cs).2 = c :: cs := by
  rw [List.cons_append, List.take_append_drop]

theorem escapedClosings_nil : escapedClosings [] = 0 := by
  rw [escapedClosings, pieceTexts]
  rfl

theorem bodd_escapedClosings_cons (c : Char) (cs : List Char) :
    (escapedClosings (c :: cs)).bodd =
      (endsInEscapedQuote (c :: cs.take (readPiece c cs).2) ^^
        (escapedClosings (cs.drop (readPiece c cs).2)).bodd) := by
  unfold escapedClosings
  rw [pieceTexts, List.countP_cons, Nat.bodd_add, Bool.xor_comm]
  cases endsInEscapedQuote (c :: cs.take (readPiece c cs).2) <;> rfl

theorem readSections_cons (c : Char) (cs : List Char) :
    readSections (c :: cs) =
      if c :: cs.take (readPiece c cs).2 = [';'] then
        [] :: readSections (cs.drop (readPiece c cs).2)
      else (readSections (cs.drop (readPiece c cs).2)).modifyHead
        (c :: cs.take (readPiece c cs).2 ++ ·) := by
  unfold readSections
  rw [pieceTexts, List.splitOnP_cons_eq_if_modifyHead]
  simp only [decide_eq_true_eq]
  split
  · rfl
  · generalize List.splitOnP _ (pieceTexts (cs.drop (readPiece c cs).2)) = ss
    cases ss <;> rfl

/-- **How the states of the two readers differ**: they tell the opposite about quotes behind an odd
    number of runs that end in an escaped quote. -/
theorem agree_scanners (d : Bool) (cs : List Char) :
    Agree (d ^^ (escapedClosings cs).bodd) (splitScanner.after ⟨d, false⟩ cs)
      (pieceScanner.after .plain cs) := by
  induction cs using pieceTexts.induct generalizing d with
  | case1 =>
    rw [escapedClosings_nil, Nat.bodd_zero, Bool.xor_false]
    exact ⟨(Bool.false_xor d).symm, fun _ => rfl, nofun⟩
  | case2 c cs ih =>
    rw [bodd_escapedClosings_cons, ← append_piece c cs]
    rcases (pieceShape_readPiece c cs).after d with ⟨hsections, hpieces⟩ | ⟨hrest, hnone, hagree⟩
    · rw [after_append, after_append, hsections, hpieces, ← Bool.xor_assoc]
      exact ih _
    · rw [hnone, hrest, escapedClosings_nil, Nat.bodd_zero, Bool.xor_false, Bool.xor_false,
        List.append_nil]
      exact hagree

/-- The reader of pieces finds the sections in which every piece is whole. -/
theorem readSections_eq (cs : List Char) : readSections cs = pieceScanner.sections .plain cs := by
  induction cs using pieceTexts.induct with
  | case1 =>
    rw [readSections, pieceTexts]
    rfl
  | case2 c cs ih =>
    have hshape := pieceShape_readPiece c cs
    rw [readSections_cons, ih, ← append_piece c cs]
    by_cases hpiece : c :: cs.take (readPiece c cs).2 = [';']
    · rw [if_pos hpiece, hpiece]
      rfl
    · rw [if_neg hpiece, sections_append _ (hshape.not_cuts hpiece)]
      rcases hshape.after false with ⟨-, hafter⟩ | ⟨hrest, -⟩
      · rw [hafter]
      · rw [hrest]
        rfl

end Pieces

/-- **A picture is cut where its pieces say, unless a quoted run ends in an escaped quote.**
    The sections with semicolons between them are the picture, whatever it is. They are those in
    which every piece is whole, so that no semicolon in quotes and none behind a backslash separates
    them, just if each semicolon that no backslash escapes stands behind an even number of runs in
    quotes that end in an escaped quote. -/
theorem splitSections_eq_iff (picture : List Char) :
    [';'].intercalate (splitSections false picture) = picture ∧
      (splitSections false picture = readSections picture ↔
        ∀ before rest, picture = before ++ ';' :: rest → endsEscaping before = false →
          Even (escapedClosings before)) := by
  rw [splitSections_eq, readSections_eq]
  refine ⟨intercalate_sections _ _ _, sections_eq_iff.trans ?_⟩
  refine forall_congr' fun before => forall_congr' fun rest => imp_congr_right fun _ => ?_
  have hagree := agree_scanners false before
  have hescaped := escaped_after false before
  have heven : Even (escapedClosings before) ↔ (escapedClosings before).bodd = false := by
    rw [Nat.even_iff, Nat.mod_two_of_bodd]
    cases (escapedClosings before).bodd <;> decide
  rw [heven, ← hescaped]
  generalize splitScanner.after ⟨false, false⟩ before = q at *
  generalize pieceScanner.after .plain before = r at *
  obtain ⟨hquoted, hplain, hbehind⟩ := hagree
  -- outside of quotes both cut or the first one takes the place for quoted, inside the other way
  -- round
  obtain ⟨quoted, escaped⟩ := q
  cases r <;> cases escaped <;> simp_all [splitScanner, pieceScanner]

-- the run ends in the second quote, which the reader of sections passes over
example : splitSections false "\"\\\";0".toList = ["\"\\\";0".toList] ∧
    readSections "\"\\\";0".toList = ["\"\\\"".toList, "0".toList] := by
  decide +kernel

end Gridcalc
