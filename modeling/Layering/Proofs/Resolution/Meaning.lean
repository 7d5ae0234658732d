import Layering.Proofs.Graph.Files
import Layering.Proofs.Policy.Invariants
import Layering.Proofs.Resolution.Normal
import Layering.Proofs.Text.Slashed

/-! What a specifier refers to, stated without the steps that find it: which path it is read as, which form that path
has without dots, and which of the files that may be meant comes first. -/
namespace Layering

/-- Two paths one after the other; one of them alone if the other is empty. -/
def inSequence (first second : String) : String := Text.join "/" ([first, second].filter (· ≠ ""))

theorem inSequence_empty (second : String) : inSequence "" second = second := by
  by_cases none : second = "" <;> simp [inSequence, none, Text.join]

theorem inSequence_of_ne {first second : String} (some? : first ≠ "") (some' : second ≠ "") :
    inSequence first second = first ++ "/" ++ second := by
  simp [inSequence, some?, some', Text.join]

/-- A specifier that starts from the importing file. -/
def FromHere (specifier : String) : Prop :=
  specifier = "." ∨ specifier = ".." ∨ "./".toList <+: specifier.toList ∨ "../".toList <+: specifier.toList

theorem isRelative_eq_true {specifier : String} : isRelative specifier = true ↔ FromHere specifier := by
  have dot : (Text.split '/' specifier).head? = some "." ↔ specifier = "." ∨ "./".toList <+: specifier.toList :=
    Text.head?_split (by decide)
  have dots : (Text.split '/' specifier).head? = some ".." ↔ specifier = ".." ∨ "../".toList <+: specifier.toList :=
    Text.head?_split (by decide)
  have first : isRelative specifier = true ↔
      (Text.split '/' specifier).head? = some "." ∨ (Text.split '/' specifier).head? = some ".." := by
    rw [isRelative]
    split <;> simp_all
  rw [first, dot, dots, FromHere, or_or_or_comm, or_assoc]

namespace Alias

/-- An alias stands for the start of a specifier, and the given text is left. -/
def Fits (a : Alias) (specifier rest : String) : Prop :=
  specifier = a.key ∧ rest = "" ∨ specifier = a.key ++ "/" ++ rest

theorem strip?_eq_some {a : Alias} {specifier rest : String} :
    a.strip? specifier = some rest ↔ a.Fits specifier rest :=
  Text.below?_eq_some

theorem strip?_eq_none {a : Alias} {specifier : String} :
    a.strip? specifier = none ↔ ∀ rest, ¬a.Fits specifier rest := by
  simp only [← strip?_eq_some, Option.eq_none_iff_forall_ne_some, ne_eq]

theorem expand_eq (a : Alias) (rest : String) : a.expand rest = inSequence a.target rest := by
  by_cases last : rest = "" <;> by_cases top : a.target = "" <;> simp [expand, inSequence, last, top, Text.join]

theorem Fits.start {a : Alias} {specifier rest : String} (fits : a.Fits specifier rest) :
    a.key.toList <+: specifier.toList := by
  rcases fits with ⟨rfl, -⟩ | rfl
  · exact List.prefix_rfl
  · simp

/-- Of two keys at the start of a specifier, the one with fewer bytes has fewer characters. -/
theorem Fits.length_le {a b : Alias} {specifier rest rest' : String} (fits : a.Fits specifier rest)
    (fits' : b.Fits specifier rest') (fewer : b.key.utf8ByteSize ≤ a.key.utf8ByteSize) :
    b.key.length ≤ a.key.length := by
  by_contra longer
  rw [← String.length_toList, ← String.length_toList] at longer
  obtain ⟨more, spelt⟩ := List.prefix_of_prefix_length_le fits.start fits'.start (by omega)
  have whole : b.key = a.key ++ .ofList more := by
    apply String.toList_inj.mp
    simp [spelt]
  have size : more.length = 0 := by
    rw [whole, String.utf8ByteSize_append] at fewer
    have none : (String.ofList more).utf8ByteSize = 0 := by omega
    rw [String.utf8ByteSize_eq_zero_iff] at none
    simpa using none
  rw [← spelt, List.length_append] at longer
  omega

/-- Keys at the start of a specifier that are as long as each other are the same. -/
theorem Fits.key_eq {a b : Alias} {specifier rest rest' : String} (fits : a.Fits specifier rest)
    (fits' : b.Fits specifier rest') (same : a.key.length = b.key.length) : a.key = b.key := by
  rw [← String.length_toList, ← String.length_toList] at same
  have start := List.prefix_of_prefix_length_le fits.start fits'.start same.le
  exact String.toList_inj.mp (start.eq_of_length same)

end Alias

namespace Policy

/-- The path that a specifier is read as: from the directory of the importing file, or else with the longest key of an
alias replaced. -/
inductive ReadAs (p : Policy) (importer specifier : String) : String → Prop
  | here {directory : String} (relative : FromHere specifier) (lies : Text.LiesIn importer directory) :
      ReadAs p importer specifier (inSequence directory specifier)
  | replaced {a : Alias} {rest : String} (other : ¬FromHere specifier) (listed : a ∈ p.aliases)
      (fits : a.Fits specifier rest)
      (longest : ∀ b ∈ p.aliases, (∃ rest, b.Fits specifier rest) → b.key.length ≤ a.key.length) :
      ReadAs p importer specifier (inSequence a.target rest)

/-- A specifier that is no path to a file of the project. -/
structure Elsewhere (p : Policy) (specifier : String) : Prop where
  other : ¬FromHere specifier
  alone : ∀ a ∈ p.aliases, ∀ rest, ¬a.Fits specifier rest

/-- The files that a path without dots may stand for, in order. -/
def tried (extensions : List String) (form : String) : List String :=
  form :: extensions.map (fun extension => form ++ "." ++ extension) ++
    extensions.map fun extension => inSequence form ("index." ++ extension)

/-- A path that an import may lead to. -/
def Exists (isFile : String → Bool) (path : String) : Prop := path ≠ "" ∧ isFile path = true

/-- What a specifier of a file refers to. -/
inductive Resolves (p : Policy) (isFile : String → Bool) (importer specifier : String) : Resolution → Prop
  | package (elsewhere : Elsewhere p specifier) (relative : specifier.toList.head? ≠ some '/') :
      Resolves p isFile importer specifier .external
  | absolute (elsewhere : Elsewhere p specifier) (slash : specifier.toList.head? = some '/') :
      Resolves p isFile importer specifier .unresolved
  | outside {path : String} (read : ReadAs p importer specifier path) (out : Path.LeadsOut path) :
      Resolves p isFile importer specifier .unresolved
  | missing {path form : String} (read : ReadAs p importer specifier path) (is : Path.IsForm path form)
      (none : ∀ file ∈ tried p.discovery.extensions form, ¬Exists isFile file) :
      Resolves p isFile importer specifier .unresolved
  | found {path form file : String} {before after : List String} (read : ReadAs p importer specifier path)
      (is : Path.IsForm path form) (order : tried p.discovery.extensions form = before ++ file :: after)
      (earlier : ∀ other ∈ before, ¬Exists isFile other) (here : Exists isFile file) :
      Resolves p isFile importer specifier (.internal file)

variable {p : Policy} {isFile : String → Bool} {importer specifier path : String}

theorem candidates_eq_tried (p : Policy) (form : String) : p.candidates form = tried p.discovery.extensions form := by
  have index (extension : String) : (if form = "" then "index" else form ++ "/index") ++ "." ++ extension =
      inSequence form ("index." ++ extension) := by
    by_cases top : form = ""
    · simp [top, inSequence_empty]
    · rw [inSequence_of_ne top (by simp [String.append_eq_empty_iff]), if_neg top]
      simp only [String.append_assoc]
      rfl
  simp only [candidates, tried, index]

section Reading

/-- The first alias in order that fits has the longest key of all that fit. -/
theorem expandAlias?_eq_some (formed : Formed p) : p.expandAlias? specifier = some path ↔
    ∃ a ∈ p.aliases, ∃ rest, a.Fits specifier rest ∧
      (∀ b ∈ p.aliases, (∃ rest, b.Fits specifier rest) → b.key.length ≤ a.key.length) ∧
      path = inSequence a.target rest := by
  have order := formed.longestFirst
  constructor
  · intro found
    obtain ⟨before, a, after, whole, here, earlier⟩ := List.findSome?_eq_some_iff.mp found
    obtain ⟨rest, stripped, rfl⟩ := Option.map_eq_some_iff.mp here
    have fits := Alias.strip?_eq_some.mp stripped
    refine ⟨a, by simp [whole], rest, fits, ?_, a.expand_eq rest⟩
    rintro b listed ⟨rest', fits'⟩
    rw [whole, List.mem_append, List.mem_cons] at listed
    rcases listed with first | rfl | later
    · have no := Option.map_eq_none_iff.mp (earlier b first)
      exact absurd fits' (Alias.strip?_eq_none.mp no rest')
    · exact le_rfl
    · rw [whole, List.pairwise_append, List.pairwise_cons] at order
      exact fits.length_le fits' (order.2.1.1 b later)
  · rintro ⟨a, listed, rest, fits, longest, rfl⟩
    obtain ⟨before, after, whole⟩ := List.append_of_mem listed
    refine List.findSome?_eq_some_iff.mpr ⟨before, a, after, whole, ?_, fun b first => ?_⟩
    · rw [Alias.strip?_eq_some.mpr fits, Option.map_some, a.expand_eq]
    · refine Option.map_eq_none_iff.mpr (Alias.strip?_eq_none.mpr fun rest' fits' => ?_)
      have listed' : b ∈ p.aliases := whole ▸ List.mem_append_left _ first
      have keys := formed.keys
      rw [whole, List.pairwise_append] at order
      rw [whole, List.map_append, List.nodup_append] at keys
      have same : b.key.length = a.key.length := Nat.le_antisymm (longest b listed' ⟨rest', fits'⟩)
        (fits'.length_le fits (order.2.2 b first a List.mem_cons_self))
      exact keys.2.2 b.key (List.mem_map_of_mem first) a.key (by simp) (fits'.key_eq fits same)

theorem expandAlias?_eq_none :
    p.expandAlias? specifier = none ↔ ∀ a ∈ p.aliases, ∀ rest, ¬a.Fits specifier rest := by
  simp only [expandAlias?, List.findSome?_eq_none_iff, Option.map_eq_none_iff, Alias.strip?_eq_none]

theorem reference_of_fromHere (relative : FromHere specifier) :
    p.reference importer specifier = .path (inSequence (Text.parent importer) specifier) := by
  have some? : specifier ≠ "" := by
    rintro rfl
    simp [FromHere] at relative
  rw [reference, if_pos (isRelative_eq_true.mpr relative)]
  by_cases top : Text.parent importer = ""
  · simp [top, inSequence_empty]
  · simp [top, inSequence_of_ne top some?]

theorem reference_of_not_fromHere (other : ¬FromHere specifier) : p.reference importer specifier =
    ((p.expandAlias? specifier).map Reference.path).getD
      (if specifier.toList.head? = some '/' then .absolute else .package) := by
  rw [reference, if_neg (mt isRelative_eq_true.mp other)]
  cases p.expandAlias? specifier <;> rfl

theorem reference_eq_path (formed : Formed p) :
    p.reference importer specifier = .path path ↔ ReadAs p importer specifier path := by
  constructor
  · intro read
    by_cases relative : FromHere specifier
    · rw [reference_of_fromHere relative, Reference.path.injEq] at read
      exact read ▸ .here relative (Text.liesIn_parent importer)
    · rw [reference_of_not_fromHere relative] at read
      cases expanded : p.expandAlias? specifier with
      | some path =>
        obtain ⟨a, listed, rest, fits, longest, rfl⟩ := (expandAlias?_eq_some formed).mp expanded
        rw [expanded] at read
        exact Reference.path.inj read ▸ .replaced relative listed fits longest
      | none =>
        rw [expanded, Option.map_none, Option.getD_none] at read
        split at read <;> cases read
  · intro read
    cases read with
    | here relative lies => rw [reference_of_fromHere relative, lies.parent_eq]
    | @replaced a rest other listed fits longest =>
      have expanded := (expandAlias?_eq_some formed).mpr ⟨a, listed, rest, fits, longest, rfl⟩
      rw [reference_of_not_fromHere other, expanded, Option.map_some, Option.getD_some]

theorem reference_of_elsewhere (elsewhere : Elsewhere p specifier) : p.reference importer specifier =
    if specifier.toList.head? = some '/' then .absolute else .package := by
  rw [reference_of_not_fromHere elsewhere.other, expandAlias?_eq_none.mpr elsewhere.alone, Option.map_none,
    Option.getD_none]

theorem readAs_or_elsewhere (formed : Formed p) (importer specifier : String) :
    (∃ path, ReadAs p importer specifier path) ∨ Elsewhere p specifier := by
  by_cases relative : FromHere specifier
  · exact .inl ⟨_, .here relative (Text.liesIn_parent importer)⟩
  · cases expanded : p.expandAlias? specifier with
    | none => exact .inr ⟨relative, expandAlias?_eq_none.mp expanded⟩
    | some path =>
      obtain ⟨a, listed, rest, fits, longest, rfl⟩ := (expandAlias?_eq_some formed).mp expanded
      exact .inl ⟨_, .replaced relative listed fits longest⟩

end Reading

section Looking

/-- The first file that exists among those tried. -/
def firstOf (isFile : String → Bool) (files : List String) : Option String :=
  files.find? fun file => file ≠ "" && isFile file

theorem firstOf_eq_some {files : List String} {file : String} :
    firstOf isFile files = some file ↔ Exists isFile file ∧
      ∃ before after, files = before ++ file :: after ∧ ∀ other ∈ before, ¬Exists isFile other := by
  simp [firstOf, List.find?_eq_some_iff_append, Exists, or_iff_not_imp_left]

theorem firstOf_eq_none {files : List String} :
    firstOf isFile files = none ↔ ∀ file ∈ files, ¬Exists isFile file := by
  simp [firstOf, Exists]

theorem resolve_of_readAs (formed : Formed p) (read : ReadAs p importer specifier path) :
    p.resolve isFile importer specifier =
      match (inProject? path).bind fun form => firstOf isFile (tried p.discovery.extensions form) with
      | some file => .internal file
      | none => .unresolved := by
  simp only [resolve, (reference_eq_path formed).mpr read, candidates_eq_tried]
  rfl

theorem resolve_of_resolves (formed : Formed p) {r : Resolution} (resolves : Resolves p isFile importer specifier r) :
    p.resolve isFile importer specifier = r := by
  cases resolves with
  | package elsewhere relative => rw [resolve, reference_of_elsewhere elsewhere, if_neg relative]
  | absolute elsewhere slash => rw [resolve, reference_of_elsewhere elsewhere, if_pos slash]
  | outside read out => rw [resolve_of_readAs formed read, out.inProject?_eq, Option.bind_none]
  | missing read is none =>
    rw [resolve_of_readAs formed read, is.inProject?_eq, Option.bind_some, firstOf_eq_none.mpr none]
  | found read is order earlier here =>
    rw [resolve_of_readAs formed read, is.inProject?_eq, Option.bind_some,
      firstOf_eq_some.mpr ⟨here, _, _, order, earlier⟩]

/-- Every specifier refers to something. -/
theorem exists_resolves (formed : Formed p) (isFile : String → Bool) (importer specifier : String) :
    ∃ r, Resolves p isFile importer specifier r := by
  rcases readAs_or_elsewhere formed importer specifier with ⟨path, read⟩ | elsewhere
  · rcases Path.isForm_or_leadsOut path with ⟨form, is⟩ | out
    · cases first : firstOf isFile (tried p.discovery.extensions form) with
      | none => exact ⟨_, .missing read is (firstOf_eq_none.mp first)⟩
      | some file =>
        obtain ⟨here, before, after, order, earlier⟩ := firstOf_eq_some.mp first
        exact ⟨_, .found read is order earlier here⟩
    · exact ⟨_, .outside read out⟩
  · by_cases slash : specifier.toList.head? = some '/'
    · exact ⟨_, .absolute elsewhere slash⟩
    · exact ⟨_, .package elsewhere slash⟩

theorem resolve_eq_iff_resolves (formed : Formed p) {r : Resolution} :
    p.resolve isFile importer specifier = r ↔ Resolves p isFile importer specifier r := by
  refine ⟨?_, resolve_of_resolves formed⟩
  rintro rfl
  obtain ⟨r, resolves⟩ := exists_resolves formed isFile importer specifier
  rwa [resolve_of_resolves formed resolves]

end Looking

/-- Whatever is tried for a path without dots is such a path again, as long as extensions are parts of names. -/
theorem isNormal_of_mem_tried (formed : DiscoveryFormed p.discovery)
    (whole : ∀ extension ∈ p.discovery.extensions, '/' ∉ extension.toList) {form file : String}
    (normal : form = "" ∨ Path.IsNormal form) (listed : file ∈ tried p.discovery.extensions form) (some? : file ≠ "") :
    Path.IsNormal file := by
  have tail {extension : String} (member : extension ∈ p.discovery.extensions) :
      2 ≤ ("." ++ extension).length ∧ '/' ∉ ("." ++ extension).toList := by
    have some? : extension.length ≠ 0 := by
      rw [← String.length_toList]
      simpa using (formed.extensions extension member).1
    refine ⟨?_, by simpa using whole extension member⟩
    rw [String.length_append]
    have dot : ".".length = 1 := by decide
    omega
  have index {extension : String} (member : extension ∈ p.discovery.extensions) :
      Path.IsName ("index." ++ extension) := by
    have spelt : "index." ++ extension = "index" ++ ("." ++ extension) := by
      rw [← String.append_assoc]
      rfl
    rw [spelt]
    exact Path.isName_append (by decide) (tail member).1 (tail member).2
  simp only [tried, List.mem_append, List.mem_cons, List.mem_map] at listed
  rcases listed with (rfl | ⟨extension, member, rfl⟩) | ⟨extension, member, rfl⟩
  · exact normal.resolve_left some?
  · rw [String.append_assoc]
    rcases normal with rfl | normal
    · obtain ⟨proper, noDot⟩ := formed.extensions extension member
      rw [String.empty_append]
      refine Path.isNormal_name ⟨by simp, fun same => proper ?_, fun same => noDot ?_, (tail member).2⟩
      · simpa using congrArg String.toList same
      · have spelt : extension.toList = ['.'] := by simpa using congrArg String.toList same
        rw [spelt, List.head?_cons]
    · exact Path.isNormal_append normal (tail member).1 (tail member).2
  · rcases normal with rfl | normal
    · rw [inSequence_empty]
      exact Path.isNormal_name (index member)
    · rw [inSequence_of_ne normal.ne_empty (index member).some?]
      exact (Path.isNormal_slash (index member).whole).mpr ⟨normal, index member⟩

/-- A specifier is resolved to what it refers to, and the path of a file that it refers to is one without dots that is
known or a file. -/
theorem resolve_eq_iff {document : Document} (accepted : load document = .ok p)
    (whole : ∀ extension ∈ p.discovery.extensions, '/' ∉ extension.toList) (root : Path) (reader : Reader)
    (known : List String) (importer specifier : String) :
    (∀ r, p.resolve (Graph.isKnown root reader known) importer specifier = r ↔
      Resolves p (Graph.isKnown root reader known) importer specifier r) ∧
    ∀ path, p.resolve (Graph.isKnown root reader known) importer specifier = .internal path →
      path ≠ "" ∧ Path.IsNormal path ∧ (path ∈ known ∨ reader.isFile (root.join ⟨path⟩) = true) := by
  have formed := (load_eq_ok.mp accepted).formed
  refine ⟨fun r => resolve_eq_iff_resolves formed, fun path internal => ?_⟩
  cases (resolve_eq_iff_resolves formed).mp internal with
  | found read is order earlier here =>
    refine ⟨here.1, isNormal_of_mem_tried formed.discovery whole is.normal (by simp [order]) here.1, ?_⟩
    simpa [Graph.isKnown] using here.2

/-- The alias of the project directory leads from one file to another. -/
theorem resolve_eq_iff_looselySpelt :
    let isFile := Graph.isKnown ⟨""⟩ (Memory.reader {}) ["src/app/a.ts", "src/shared/b.ts"]
    load looselySpelt = .ok strictlySpelt ∧
      (∀ extension ∈ strictlySpelt.discovery.extensions, '/' ∉ extension.toList) ∧
      Resolves strictlySpelt isFile "src/app/a.ts" "@/src/shared/b" (.internal "src/shared/b.ts") := by
  have whole : ∀ extension ∈ strictlySpelt.discovery.extensions, '/' ∉ extension.toList := by decide
  refine ⟨load_looselySpelt, whole, ?_⟩
  have all := resolve_eq_iff load_looselySpelt whole ⟨""⟩ (Memory.reader {}) ["src/app/a.ts", "src/shared/b.ts"]
    "src/app/a.ts" "@/src/shared/b"
  exact (all.1 _).mp (by decide +kernel)

end Policy

end Layering
