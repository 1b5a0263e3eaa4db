import Gridcalc.Proofs.Formula.Rereading
import Mathlib.Data.String.Basic

/-!
# Places of tokens

Every token knows the bytes between which it stands.

* `byteLength_append`, `extract_between`: bytes of a text and the characters between two of them;
* `Laid`: tokens with their blanks one directly behind another;
* `Tiles`: tokens in their places in a text, with nothing but blanks outside of them;
* `tokenize_tiles`: **every text is tiled by its tokens**, and the mark of the end is the last of
  them.
-/

namespace Gridcalc

/-! ## 1. Bytes -/

section Bytes

variable {front mid rest : List Char} {start stop : Nat}

theorem byteLength_eq (cs : List Char) : byteLength cs = String.utf8Len cs := by
  induction cs with
  | nil => rfl
  | cons c cs ih =>
    have hcons : byteLength (c :: cs) = c.utf8Size + byteLength cs := rfl
    rw [hcons, ih, String.utf8Len_cons, Nat.add_comm]

theorem byteLength_append (cs ds : List Char) :
    byteLength (cs ++ ds) = byteLength cs + byteLength ds := by
  simp only [byteLength_eq, String.utf8Len_append]

theorem byteLength_cons (c : Char) (cs : List Char) :
    byteLength (c :: cs) = c.utf8Size + byteLength cs := rfl

theorem byteLength_pos (h : mid ≠ []) : 0 < byteLength mid := by
  obtain ⟨c, cs, rfl⟩ := List.exists_cons_of_ne_nil h
  have hsize := c.utf8Size_pos
  rw [byteLength_cons]
  omega

theorem utf8ByteSize_eq (s : String) : s.utf8ByteSize = byteLength s.toList := by
  rw [byteLength_eq, ← String.utf8ByteSize_ofList, String.ofList_toList]

/-- The byte behind some characters of a text lies between two characters. -/
theorem isValid_byteLength {s : String} (h : s.toList = front ++ rest) :
    (⟨byteLength front⟩ : String.Pos.Raw).IsValid s := by
  rw [String.Pos.Raw.isValid_iff_exists_append]
  refine ⟨String.ofList front, String.ofList rest, ?_, ?_⟩
  · rw [← String.ofList_append, ← h, String.ofList_toList]
  · rw [byteLength_eq, String.rawEndPos_ofList]

/-- The characters between two bytes of a text. -/
theorem extract_between {s : String} (h : s.toList = front ++ mid ++ rest)
    (hstart : start = byteLength front) (hstop : stop = start + byteLength mid) :
    String.Pos.Raw.extract s ⟨start⟩ ⟨stop⟩ = String.ofList mid := by
  subst hstop hstart
  have hvalid := String.extract_of_valid front mid rest
  rwa [← h, String.ofList_toList, ← byteLength_eq, ← byteLength_eq] at hvalid

end Bytes

/-! ## 2. Tokens one behind another -/

/-- Each token begins where its blanks end, and these begin where the token in front of it ends; the
    first ones begin at `offset`. -/
inductive Laid : Nat → List Token → Prop
  | nil (offset : Nat) : Laid offset []
  | cons {offset : Nat} {t : Token} {ts : List Token}
      (hstart : t.start = offset + byteLength t.gap) (hrest : Laid t.stop ts) :
      Laid offset (t :: ts)

section Laid

variable {offset : Nat} {cs front rest : List Char} {t : Token} {ts before after : List Token}

theorem Token.stop_eq (h : t.start = offset + byteLength t.gap) :
    t.stop = offset + byteLength t.chars := by
  rw [Token.stop, h, Token.chars, byteLength_append, Nat.add_assoc]

/-- Scanning lays tokens one behind another. -/
theorem laid_scanFrom (offset : Nat) (cs : List Char) :
    Laid offset ((scanFrom offset cs).1 ++ [(scanFrom offset cs).2]) ∧
      (scanFrom offset cs).2.source = [] := by
  fun_induction scanFrom offset cs with
  | case1 => exact ⟨.cons rfl (.nil _), rfl⟩
  | case2 offset cs gap start c rest h n token tokens finish hs ih =>
    rw [hs] at ih
    exact ⟨.cons rfl ih.1, ih.2⟩

/-- A token begins behind all tokens in front of it and its own blanks. -/
theorem Laid.start_eq (h : Laid offset (before ++ t :: after)) :
    t.start = offset + byteLength (before.flatMap Token.chars ++ t.gap) := by
  induction before generalizing offset with
  | nil =>
    cases h with
    | cons hstart _ => exact hstart
  | cons u us ih =>
    cases h with
    | cons hstart hrest =>
      rw [ih hrest, Token.stop_eq hstart, List.flatMap_cons, List.append_assoc,
        byteLength_append u.chars, Nat.add_assoc]

/-- No token begins in front of the offset. -/
theorem Laid.le_start (h : Laid offset ts) (ht : t ∈ ts) : offset ≤ t.start := by
  obtain ⟨before, after, rfl⟩ := List.append_of_mem ht
  rw [h.start_eq]
  exact Nat.le_add_right _ _

/-- No token begins before those in front of it end. -/
theorem Laid.pairwise (h : Laid offset ts) : ts.Pairwise fun t t' => t.stop ≤ t'.start := by
  induction h with
  | nil => exact .nil
  | cons _ hrest ih => exact .cons (fun _ ht => hrest.le_start ht) ih

/-- A character of two texts one behind the other is one of the first or of the second. -/
theorem exists_of_append_eq {xs ys : List Char} {c : Char} (h : xs ++ ys = front ++ c :: rest) :
    (∃ more, xs = front ++ c :: more) ∨ ∃ more, front = xs ++ more ∧ ys = more ++ c :: rest := by
  rcases List.append_eq_append_iff.mp h with ⟨more, hfront, hys⟩ | ⟨more, hxs, hrest⟩
  · exact .inr ⟨more, hfront, hys⟩
  · cases more with
    | nil => exact .inr ⟨[], by simpa using hxs.symm, hrest.symm⟩
    | cons d more =>
      cases hrest
      exact .inl ⟨more, hxs⟩

/-- Every character lies in a token, or it is one of the blanks between them. -/
theorem Laid.covers (h : Laid offset ts) (hgap : ∀ t ∈ ts, AllBlank t.gap) {c : Char}
    (hcs : ts.flatMap Token.chars = front ++ c :: rest) :
    (∃ t ∈ ts, t.start ≤ offset + byteLength front ∧ offset + byteLength front < t.stop) ∨
      Text.isBlank c = true := by
  induction h generalizing front with
  | nil => cases front <;> cases hcs
  | @cons offset t ts hstart _ ih =>
    obtain ⟨hblank, hgap⟩ := List.forall_mem_cons.mp hgap
    rw [List.flatMap_cons] at hcs
    rcases exists_of_append_eq hcs with ⟨more, hchars⟩ | ⟨more, rfl, hlater⟩
    · rcases exists_of_append_eq hchars with ⟨gap, hingap⟩ | ⟨source, rfl, hsource⟩
      · refine .inr (hblank c ?_)
        simp [hingap]
      · refine .inl ⟨t, List.mem_cons_self, ?_⟩
        have hsize := c.utf8Size_pos
        rw [Token.stop, hstart, hsource]
        simp only [byteLength_append, byteLength_cons]
        omega
    · rw [byteLength_append, ← Nat.add_assoc, ← Token.stop_eq hstart]
      refine (ih hgap hlater).imp_left ?_
      rintro ⟨t', ht', hcover⟩
      exact ⟨t', List.mem_cons_of_mem _ ht', hcover⟩

end Laid

/-! ## 3. Places in a text -/

/-- Tokens that lie in a text one behind another, with nothing but blanks outside of them. -/
structure Tiles (text : String) (tokens : List Token) : Prop where
  /-- A token begins and ends between two characters, and those in between are its own. -/
  placed : ∀ t ∈ tokens,
    (⟨t.start⟩ : String.Pos.Raw).IsValid text ∧ (⟨t.stop⟩ : String.Pos.Raw).IsValid text ∧
      String.Pos.Raw.extract text ⟨t.start⟩ ⟨t.stop⟩ = String.ofList t.source
  /-- A token in front of another one is not empty and ends before that begins. -/
  ordered : tokens.Pairwise fun t t' => t.start < t.stop ∧ t.stop ≤ t'.start
  /-- A character lies in a token, or it is blank. -/
  covered : ∀ front c rest, text.toList = front ++ c :: rest →
    (∃ t ∈ tokens, t.start ≤ byteLength front ∧ byteLength front < t.stop) ∨
      Text.isBlank c = true

section Tiling

variable {fin : List Char} {t : Token} {ts : List Token} {c : Char} {cs : List Char}

/-- Only the mark of the end stands for the end. -/
theorem readToken_ne_finish (c : Char) (cs : List Char) : (readToken c cs).1 ≠ .finish := by
  intro h
  rcases mark_or_isLong c cs with ⟨ms, hm, -⟩ | hlong
  · rw [h] at hm
    cases hm
  · rw [h] at hlong
    cases hlong

theorem Spelled.of_mem (h : Spelled fin ts) (ht : t ∈ ts) :
    AllBlank t.gap ∧ t.source ≠ [] ∧ t.kind ≠ .finish := by
  induction h with
  | nil => cases ht
  | cons hgap hsource _ ih =>
    rcases List.mem_cons.mp ht with rfl | ht
    · refine ⟨hgap, hsource.ne_nil, ?_⟩
      obtain ⟨c, cs, -, -, hread⟩ := hsource
      exact fun hkind => readToken_ne_finish _ _ ((congrArg Prod.fst hread).trans hkind)
    · exact ih ht

theorem Spelled.allBlank_finish (h : Spelled fin ts) : AllBlank fin := by
  induction h with
  | nil hfin => exact hfin
  | cons _ _ _ ih => exact ih

/-- Tokens and the mark of the end that are laid in a text tile it. -/
theorem tiles_of_laid {text : String} {finish : Token} (hlaid : Laid 0 (ts ++ [finish]))
    (htext : (ts ++ [finish]).flatMap Token.chars = text.toList)
    (hgap : ∀ t ∈ ts ++ [finish], AllBlank t.gap) (hsource : ∀ t ∈ ts, t.source ≠ []) :
    Tiles text (ts ++ [finish]) where
  placed t ht := by
    obtain ⟨before, after, hsplit⟩ := List.append_of_mem ht
    have hstart := (hsplit ▸ hlaid).start_eq
    have hcut : text.toList =
        before.flatMap Token.chars ++ t.gap ++ t.source ++ after.flatMap Token.chars := by
      rw [← htext, hsplit]
      simp [Token.chars]
    have hstop : t.stop = byteLength (before.flatMap Token.chars ++ t.gap ++ t.source) := by
      rw [Token.stop, hstart, Nat.zero_add, byteLength_append _ t.source]
    rw [Nat.zero_add] at hstart
    refine ⟨?_, ?_, extract_between hcut hstart rfl⟩
    · rw [hstart]
      exact isValid_byteLength (by rw [hcut, List.append_assoc])
    · rw [hstop]
      exact isValid_byteLength hcut
  ordered := by
    have hordered := hlaid.pairwise
    rw [List.pairwise_append] at hordered ⊢
    obtain ⟨hts, hlast, hbefore⟩ := hordered
    have hlong : ∀ t ∈ ts, t.start < t.stop := fun t ht => by
      have hpos := byteLength_pos (hsource t ht)
      rw [Token.stop]
      omega
    refine ⟨hts.imp_of_mem fun ht _ hle => ⟨hlong _ ht, hle⟩, List.pairwise_singleton _ _, ?_⟩
    exact fun t ht u hu => ⟨hlong t ht, hbefore t ht u hu⟩
  covered front c rest hcs := by
    have hcovers := hlaid.covers hgap (htext.trans hcs)
    rwa [Nat.zero_add] at hcovers

/-- **Every text is tiled by its tokens.** The last of them, and no other one, is the mark of the
    end, which is empty and stands behind the text; no other token is empty. -/
theorem tokenize_tiles (formula : String) :
    Tiles formula (tokenize formula) ∧
      ∃ tokens finish, tokenize formula = tokens ++ [finish] ∧ finish.kind = .finish ∧
        finish.start = formula.utf8ByteSize ∧ finish.stop = formula.utf8ByteSize ∧
        ∀ t ∈ tokens, t.kind ≠ .finish ∧ t.start < t.stop := by
  obtain ⟨hlaid, hempty⟩ := laid_scanFrom 0 formula.toList
  obtain ⟨hspelled, hfinish⟩ := spelled_scanFrom 0 formula.toList
  have htext := chars_scanFrom 0 formula.toList
  rw [tokenize, scan]
  generalize scanFrom 0 formula.toList = scanned at *
  obtain ⟨tokens, finish⟩ := scanned
  dsimp only at *
  have hgap : ∀ t ∈ tokens ++ [finish], AllBlank t.gap := by
    refine List.forall_mem_append.mpr ⟨fun t ht => (hspelled.of_mem ht).1, ?_⟩
    have hlast := hspelled.allBlank_finish
    rw [Token.chars, hempty, List.append_nil] at hlast
    simpa using hlast
  have hchars : (tokens ++ [finish]).flatMap Token.chars = formula.toList := by
    rw [List.flatMap_append, List.flatMap_singleton, htext]
  have hstart : finish.start = formula.utf8ByteSize := by
    rw [hlaid.start_eq, Nat.zero_add, utf8ByteSize_eq, ← htext, Token.chars, hempty,
      List.append_nil]
  refine ⟨tiles_of_laid hlaid hchars hgap fun t ht => (hspelled.of_mem ht).2.1, tokens, finish, rfl,
    hfinish, hstart, ?_, fun t ht => ⟨(hspelled.of_mem ht).2.2, ?_⟩⟩
  · rw [Token.stop, hempty, hstart]
    rfl
  · have hpos := byteLength_pos (hspelled.of_mem ht).2.1
    rw [Token.stop]
    omega

end Tiling

end Gridcalc
