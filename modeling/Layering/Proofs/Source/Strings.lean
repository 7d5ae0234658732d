import Layering.Source.Token

/-! Reading a string after its opening quote: one lemma for what is read at each character, and from them what a whole
string takes of the text, which is the same wherever it stands. -/
namespace Layering.Source.Token

variable {quote c : Char} (p : Position) (cs : List Char)

theorem readString_newline : readString quote p ('\n' :: cs) = (none, p, '\n' :: cs) := by
  rw [readString.eq_def]
  rfl

theorem readString_close (inLine : quote ≠ '\n') : readString quote p (quote :: cs) = (some [], p.next quote, cs) := by
  rw [readString.eq_def]
  simp [inLine]

theorem readString_open (solid : '\\' ≠ quote) : readString quote p ['\\'] = (none, p.next '\\', []) := by
  simp [readString, solid]

theorem readString_char (inLine : c ≠ '\n') (inside : c ≠ quote) (plain : c ≠ '\\') :
    readString quote p (c :: cs) =
      ((readString quote (p.next c) cs).1.map (c :: ·), (readString quote (p.next c) cs).2) := by
  rw [readString.eq_def]
  simp [inLine, inside, plain]

theorem readString_escape (solid : '\\' ≠ quote) (plain : c ≠ '\n' ∧ c ≠ '\r') :
    readString quote p ('\\' :: c :: cs) = ((readString quote (p.advance ['\\', c]) cs).1.map (c :: ·),
      (readString quote (p.advance ['\\', c]) cs).2) := by
  rw [readString.eq_def]
  simp [solid, plain]

theorem readString_escapedReturn (solid : '\\' ≠ quote) :
    readString quote p ('\\' :: '\r' :: '\n' :: cs) = readString quote (p.advance ['\\', '\r', '\n']) cs := by
  rw [readString.eq_def]
  simp [solid]

theorem readString_escapedNewline (solid : '\\' ≠ quote) :
    readString quote p ('\\' :: '\n' :: cs) = readString quote (p.advance ['\\', '\n']) cs := by
  rw [readString.eq_def]
  simp [solid]

theorem readString_escapedLoneReturn (solid : '\\' ≠ quote) (alone : ∀ rest, cs ≠ '\n' :: rest) :
    readString quote p ('\\' :: '\r' :: cs) = readString quote (p.advance ['\\', '\r']) cs := by
  rw [readString.eq_def]
  simp [solid]

/-- The reader of a string takes the same part of the text from every place. -/
theorem exists_readString (quote : Char) (cs : List Char) : ∃ text body rest,
    cs = body ++ rest ∧ ∀ p, readString quote p cs = (text, p.advance body, rest) := by
  -- The reader's own induction needs some place to start from.
  obtain ⟨p⟩ : Nonempty Position := ⟨.start⟩
  fun_induction readString quote p cs with
  | case1 => exact ⟨none, [], [], rfl, fun p => by rw [readString]; rfl⟩
  | case2 p cs => exact ⟨none, [], '\n' :: cs, rfl, fun p => readString_newline p cs⟩
  | case3 p cs inLine => exact ⟨some [], [quote], cs, rfl, fun p => readString_close p cs inLine⟩
  | case4 p inLine solid => exact ⟨none, ['\\'], [], rfl, fun p => readString_open p solid⟩
  | case5 p cs inLine solid ih =>
    obtain ⟨text, body, rest, rfl, each⟩ := ih
    exact ⟨text, '\\' :: '\n' :: body, rest, rfl, fun p => (readString_escapedNewline p _ solid).trans (each _)⟩
  | case6 p cs inLine solid ih =>
    obtain ⟨text, body, rest, rfl, each⟩ := ih
    exact ⟨text, '\\' :: '\r' :: '\n' :: body, rest, rfl, fun p => (readString_escapedReturn p _ solid).trans (each _)⟩
  | case7 p cs alone inLine solid ih =>
    obtain ⟨text, body, rest, rfl, each⟩ := ih
    exact ⟨text, '\\' :: '\r' :: body, rest, rfl,
      fun p => (readString_escapedLoneReturn p _ solid alone).trans (each _)⟩
  | case8 p extend c cs noBreak alone noReturn inLine solid =>
    rename_i ih
    obtain ⟨text, body, rest, rfl, each⟩ := ih
    refine ⟨text.map (c :: ·), '\\' :: c :: body, rest, rfl, fun p => ?_⟩
    rw [readString_escape _ _ solid ⟨noBreak, noReturn⟩, each]
    rfl
  | case9 p c cs =>
    rename_i inLine inside plain ih
    obtain ⟨text, body, rest, rfl, each⟩ := ih
    refine ⟨text.map (c :: ·), c :: body, rest, rfl, fun p => ?_⟩
    rw [readString_char _ _ inLine inside plain, each]
    rfl

end Layering.Source.Token
