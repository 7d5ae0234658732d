import Layering.Glob.Expansion
import Layering.Proofs.Path
import Layering.Proofs.Policy.Checked

/-! Texts that stand for themselves in a pattern. What is escaped is read to tokens for its characters alone, whatever
follows it, and describes nothing but itself. A pattern behind it is read as it is alone. -/
namespace Layering.Glob

/-- The token that an escaped character is read to. -/
def ownToken (c : Char) : Token :=
  if c = '?' ∨ c = '*' ∨ c = '[' ∨ c = ']' then .within [.char c] else .char c

/-- The pattern that describes a name. -/
def exactly (name : String) : Glob := ⟨escape name, name.toList.map ownToken⟩

theorem toList_escape (text : String) : (escape text).toList = text.toList.flatMap escapeChar := String.toList_ofList

section Reading

variable {position position' : Nat} {before before' : Option Char} {tokens tokens' : List Token} {cs rest : List Char}

theorem tokensFrom_char {c : Char} (question : c ≠ '?') (star : c ≠ '*') (opening : c ≠ '[') :
    tokensFrom position before tokens (c :: rest) = tokensFrom (position + 1) (some c) (.char c :: tokens) rest :=
  tokensFrom.eq_10 _ _ _ _ _ question (fun _ same => absurd same star) (fun _ same => absurd same star) star
    (fun _ same => absurd same opening) opening

theorem tokensFrom_within {inside : List Char} (plain : ∀ later, cs ≠ '!' :: later)
    (found : class? cs = some (inside, rest)) : tokensFrom position before tokens ('[' :: cs) =
      tokensFrom (position + inside.length + 2) (some ']') (.within (items inside) :: tokens) rest := by
  rw [tokensFrom.eq_9 _ _ _ _ plain]
  split
  · rename_i found'
    obtain ⟨rfl, rfl⟩ := Prod.mk.inj (Option.some.inj (found.symm.trans found'))
    rfl
  · rename_i missing
    cases found.symm.trans missing

theorem tokensFrom_except {inside : List Char} (found : class? cs = some (inside, rest)) :
    tokensFrom position before tokens ('[' :: '!' :: cs) =
      tokensFrom (position + inside.length + 3) (some ']') (.except (items inside) :: tokens) rest := by
  rw [tokensFrom.eq_8]
  split
  · rename_i found'
    obtain ⟨rfl, rfl⟩ := Prod.mk.inj (Option.some.inj (found.symm.trans found'))
    rfl
  · rename_i missing
    cases found.symm.trans missing

theorem tokensFrom_within_open (plain : ∀ later, cs ≠ '!' :: later) (missing : class? cs = none) :
    tokensFrom position before tokens ('[' :: cs) = .error ⟨position, .invalidClass⟩ := by
  rw [tokensFrom.eq_9 _ _ _ _ plain]
  split
  · rename_i found
    cases missing.symm.trans found
  · rfl

theorem tokensFrom_except_open (missing : class? cs = none) :
    tokensFrom position before tokens ('[' :: '!' :: cs) = .error ⟨position, .invalidClass⟩ := by
  rw [tokensFrom.eq_8]
  split
  · rename_i found
    cases missing.symm.trans found
  · rfl

theorem exists_tokensFrom_escapeChar (position : Nat) (before : Option Char) (tokens : List Token) (c : Char)
    (rest : List Char) : ∃ position' before', tokensFrom position before tokens (escapeChar c ++ rest) =
      tokensFrom position' before' (ownToken c :: tokens) rest := by
  by_cases special : c = '?' ∨ c = '*' ∨ c = '[' ∨ c = ']'
  · have inside : class? ([c, ']'] ++ rest) = some ([c], rest) := by simp [class?]
    have plain (cs : List Char) : [c, ']'] ++ rest ≠ '!' :: cs := by
      rintro same
      obtain rfl := (List.cons.inj same).1
      exact absurd special (by decide)
    refine ⟨position + 3, some ']', ?_⟩
    rw [escapeChar, ownToken, if_pos special, if_pos special]
    exact tokensFrom_within plain inside
  · refine ⟨position + 1, some c, ?_⟩
    rw [escapeChar, ownToken, if_neg special, if_neg special]
    simp only [not_or] at special
    obtain ⟨question, star, opening, -⟩ := special
    exact tokensFrom_char question star opening

/-- An escaped text is read to its own tokens, whatever follows it. -/
theorem exists_tokensFrom_escaped (position : Nat) (before : Option Char) (tokens : List Token) (cs rest : List Char) :
    ∃ position' before', tokensFrom position before tokens (cs.flatMap escapeChar ++ rest) =
      tokensFrom position' before' ((cs.map ownToken).reverse ++ tokens) rest := by
  induction cs generalizing position before tokens with
  | nil => exact ⟨position, before, rfl⟩
  | cons c cs ih =>
    obtain ⟨position₁, before₁, first⟩ :=
      exists_tokensFrom_escapeChar position before tokens c (cs.flatMap escapeChar ++ rest)
    obtain ⟨position₂, before₂, later⟩ := ih position₁ before₁ (ownToken c :: tokens)
    refine ⟨position₂, before₂, ?_⟩
    rw [List.flatMap_cons, List.append_assoc, first, later]
    simp

theorem parse_escape (text : String) : parse (escape text) = .ok (exactly text) := by
  obtain ⟨position, before, read⟩ := exists_tokensFrom_escaped 0 none [] text.toList []
  rw [List.append_nil] at read
  rw [parse, toList_escape, read, tokensFrom]
  simp [Except.map, exactly]

/-- Where and after what a pattern is read does not matter to whether it can be read. -/
theorem isOk_tokensFrom (start : (before.isNone || before = some '/') = (before'.isNone || before' = some '/')) :
    (∃ read, tokensFrom position before tokens cs = .ok read) ↔
      ∃ read, tokensFrom position' before' tokens' cs = .ok read := by
  fun_induction tokensFrom position before tokens cs generalizing position' before' tokens' with
  | case1 => simp [tokensFrom]
  | case2 position before tokens cs ih =>
    rw [tokensFrom]
    exact ih rfl
  | case3 => simp [tokensFrom]
  | case4 position before tokens starts =>
    rw [tokensFrom, if_pos (start.symm.trans starts)]
    simp
  | case5 position before tokens starts cs _ ih =>
    rw [tokensFrom, if_pos (start.symm.trans starts)]
    exact ih rfl
  | case6 position before tokens cs noStar starts some? noSlash =>
    rw [tokensFrom.eq_6 _ _ _ _ noStar some? noSlash]
    split <;> simp
  | case7 position before tokens cs noStar within =>
    have within' : ¬(before'.isNone || before' = some '/') = true := fun starts => within (start.trans starts)
    rcases cs with _ | ⟨c, cs⟩
    · rw [tokensFrom, if_neg within']
      simp
    · by_cases slash : c = '/'
      · rw [slash, tokensFrom, if_neg within']
        simp
      · rw [tokensFrom.eq_6 _ _ _ _ noStar (by simp) (by simp [slash]), if_neg within']
        simp
  | case8 position before tokens cs noStars noStar ih =>
    rw [tokensFrom.eq_7 _ _ _ _ noStars noStar]
    exact ih rfl
  | case9 position before tokens cs inside rest found _ ih =>
    rw [tokensFrom_except found]
    exact ih rfl
  | case10 position before tokens cs missing =>
    rw [tokensFrom_except_open missing]
    simp
  | case11 position before tokens cs plain inside rest found _ ih =>
    rw [tokensFrom_within plain found]
    exact ih rfl
  | case12 position before tokens cs plain missing =>
    rw [tokensFrom_within_open plain missing]
    simp
  | case13 position before tokens c cs question stars₃ stars₂ star except opening ih =>
    rw [tokensFrom.eq_10 _ _ _ _ _ question stars₃ stars₂ star except opening]
    exact ih rfl

end Reading

section Matching

variable {name text : String}

theorem accepts_ownToken (c d : Char) : (ownToken c).accepts d = decide (d = c) := by
  rw [ownToken]
  split <;> simp [Token.accepts, Item.contains]

theorem matchesFrom_ownToken_cons (c : Char) (tokens : List Token) :
    matchesFrom (ownToken c :: tokens) [] = false ∧
      ∀ d ds, matchesFrom (ownToken c :: tokens) (d :: ds) = ((ownToken c).accepts d && matchesFrom tokens ds) := by
  rw [ownToken]
  split <;> exact ⟨rfl, fun _ _ => rfl⟩

theorem matchesFrom_ownTokens (cs ds : List Char) : matchesFrom (cs.map ownToken) ds = decide (ds = cs) := by
  induction cs generalizing ds with
  | nil => cases ds <;> simp [matchesFrom]
  | cons c cs ih =>
    obtain ⟨nothing, first⟩ := matchesFrom_ownToken_cons c (cs.map ownToken)
    cases ds with
    | nil => simp [nothing]
    | cons d ds => simp [first, ih, accepts_ownToken]

theorem isMatch_exactly : (exactly name).isMatch text = true ↔ text = name := by
  rw [isMatch, exactly, matchesFrom_ownTokens, decide_eq_true_iff, String.toList_inj]

theorem isRecursive_exactly (name : String) : (exactly name).isRecursive = false := by
  have other (c : Char) : ownToken c ≠ .anyComponents := by
    rw [ownToken]
    split <;> simp
  simp [isRecursive, exactly, other]

theorem literal?_eq_some {component : Glob} :
    literal? component = some name ↔ component.tokens = name.toList.map .char := by
  have each (tokens : List Token) (cs : List Char) : tokens.mapM Token.char? = some cs ↔ tokens = cs.map .char := by
    induction tokens generalizing cs with
    | nil => cases cs <;> simp
    | cons token tokens ih =>
      cases token <;> cases cs <;>
        simp [List.mapM_cons, Token.char?, Option.bind_eq_some_iff, ih, and_comm]
  rw [literal?, Option.map_eq_some_iff]
  simp only [each]
  constructor
  · rintro ⟨cs, tokens, rfl⟩
    rw [tokens, String.toList_ofList]
  · exact fun tokens => ⟨_, tokens, String.ofList_toList⟩

theorem literal?_exactly (found : literal? (exactly name) = some text) : text = name := by
  have tokens := literal?_eq_some.mp found
  have chars : ∀ cs ds : List Char, cs.map ownToken = ds.map .char → ds = cs := by
    intro cs
    induction cs with
    | nil => simp
    | cons c cs ih =>
      rintro (_ | ⟨d, ds⟩) same
      · cases same
      · obtain ⟨first, later⟩ := List.cons.inj same
        rw [ownToken] at first
        split at first
        · cases first
        · rw [ih ds later, Token.char.inj first]
  exact String.toList_inj.mp (chars _ _ tokens)

theorem literal?_exactly_of_still (still : name = "" ∨ name = "." ∨ name = "..") :
    literal? (exactly name) = some name := by
  rcases still with rfl | rfl | rfl <;> decide +kernel

end Matching

section Cutting

theorem segments_append_of_not_mem {separator : Char} {front : List Char} (whole : separator ∉ front) (cs : List Char) :
    ∃ piece pieces, Text.segments separator cs = piece :: pieces ∧
      Text.segments separator (front ++ cs) = (front ++ piece) :: pieces := by
  induction front with
  | nil =>
    obtain ⟨piece, pieces, cut⟩ := List.exists_cons_of_ne_nil (Text.segments_ne_nil separator cs)
    exact ⟨piece, pieces, cut, cut⟩
  | cons c front ih =>
    rw [List.mem_cons, not_or] at whole
    obtain ⟨piece, pieces, cut, cut'⟩ := ih whole.2
    refine ⟨piece, pieces, cut, ?_⟩
    rw [List.cons_append, Text.segments, if_neg (Ne.symm whole.1), cut']
    rfl

theorem segments_escaped (cs : List Char) :
    Text.segments '/' (cs.flatMap escapeChar) = (Text.segments '/' cs).map (List.flatMap escapeChar) := by
  induction cs with
  | nil => rfl
  | cons c cs ih =>
    rw [List.flatMap_cons]
    by_cases slash : c = '/'
    · rw [slash]
      simp [escapeChar, Text.segments, ih]
    · have whole : '/' ∉ escapeChar c := by
        rw [escapeChar]
        split <;> simp [Ne.symm slash]
      obtain ⟨piece, pieces, cut, cut'⟩ := segments_append_of_not_mem whole (cs.flatMap escapeChar)
      rw [cut', Text.segments, if_neg slash]
      rw [ih] at cut
      obtain ⟨first, later, cutted⟩ := List.exists_cons_of_ne_nil (Text.segments_ne_nil '/' cs)
      rw [cutted] at cut ⊢
      obtain ⟨rfl, rfl⟩ := List.cons.inj cut
      simp

/-- An escaped path is cut where the path is. -/
theorem split_escape (text : String) : Text.split '/' (escape text) = (Text.split '/' text).map escape := by
  rw [Text.split, Text.split, toList_escape, segments_escaped, List.map_map, List.map_map]
  refine List.map_congr_left fun piece _ => ?_
  simp [escape]

variable {pattern : String} {glob : Glob} {tree : Tree}

/-- A pattern behind an escaped text can be read if it can be read alone. -/
theorem exists_parse_append (read : parse pattern = .ok glob) (directory : String) :
    ∃ tokens, parse (escape directory ++ "/" ++ pattern) = .ok ⟨escape directory ++ "/" ++ pattern, tokens⟩ := by
  obtain ⟨position, before, front⟩ := exists_tokensFrom_escaped 0 none [] directory.toList ('/' :: pattern.toList)
  rw [tokensFrom_char (by decide) (by decide) (by decide)] at front
  have alone : ∃ tokens, tokensFrom 0 none [] pattern.toList = .ok tokens := by
    rw [parse] at read
    cases whole : tokensFrom 0 none [] pattern.toList with
    | ok tokens => exact ⟨tokens, rfl⟩
    | error e => simp [whole, Except.map] at read
  obtain ⟨tokens, whole⟩ : ∃ tokens, tokensFrom (position + 1) (some '/')
      (.char '/' :: ((directory.toList.map ownToken).reverse ++ [])) pattern.toList = .ok tokens :=
    (isOk_tokensFrom (by rfl)).mp alone
  refine ⟨tokens, ?_⟩
  have spelt : (escape directory ++ "/" ++ pattern).toList =
      directory.toList.flatMap escapeChar ++ '/' :: pattern.toList := by simp [toList_escape]
  rw [parse, spelt, front, whole]
  rfl

/-- The components of a pattern behind an escaped path are the names of the path and those of the pattern. -/
theorem mapM_parse_split_append (directory pattern : String) :
    (Text.split '/' (escape directory ++ "/" ++ pattern)).mapM parse =
      ((Text.split '/' pattern).mapM parse).map ((Text.split '/' directory).map exactly ++ ·) := by
  have names : ((Text.split '/' directory).map escape).mapM parse = .ok ((Text.split '/' directory).map exactly) := by
    rw [Policy.mapM_eq_ok, List.forall₂_map_left_iff, List.forall₂_map_right_iff, List.forall₂_same]
    exact fun name _ => parse_escape name
  rw [Text.split_append_slash, split_escape, List.mapM_append, names]
  cases (Text.split '/' pattern).mapM parse <;> rfl

theorem paths_eq {whole : Glob} (read : parse pattern = .ok whole) (tree : Tree) :
    paths tree pattern = whole.components.map fun components =>
      if Path.isAbsolute ⟨pattern⟩ then (expand components ⟨tree, []⟩).map fun way => ⟨Text.join "/" way⟩ else [] := by
  rw [paths, read]
  cases cut : whole.components with
  | error e => simp [bind, Except.bind, cut, Except.map]
  | ok components =>
    by_cases absolute : Path.isAbsolute ⟨pattern⟩ <;> simp [bind, Except.bind, cut, Except.map, absolute]

/-- What a pattern behind an escaped path describes. -/
theorem paths_append (read : parse glob.text = .ok glob) (directory : String) (tree : Tree) :
    paths tree (escape directory ++ "/" ++ glob.text) = glob.components.map fun components =>
      if Path.isAbsolute ⟨escape directory ++ "/" ++ glob.text⟩ then
        (expand ((Text.split '/' directory).map exactly ++ components) ⟨tree, []⟩).map fun way => ⟨Text.join "/" way⟩
      else [] := by
  obtain ⟨tokens, whole⟩ := exists_parse_append read directory
  rw [paths_eq whole, components, mapM_parse_split_append, components]
  cases (Text.split '/' glob.text).mapM parse <;> simp only [Except.map]

end Cutting

end Layering.Glob
