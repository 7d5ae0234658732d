import Layering.Proofs.Report.RequiredFiles

/-! Creating the files that are suggested for missing roles. A suggestion is spelt with a stem of the role and an
extension of sources, while the role of a file is read off its name again, up to the last dot. A finding is settled by
the file that it suggests exactly if the name is read as it was spelt. -/
namespace Layering

namespace Text

theorem liesIn_append_slash {directory name : String} (some? : directory ≠ "") :
    LiesIn (directory ++ "/" ++ name) directory ↔ '/' ∉ name.toList := by
  refine ⟨?_, fun whole => .inr ⟨name, whole, rfl⟩⟩
  rintro (⟨-, root⟩ | ⟨name', whole, same⟩)
  · exact absurd root some?
  · have names : name = name' := by simpa using same
    rwa [names]

theorem stem?_append_slash {directory name : String} (whole : '/' ∉ name.toList) (proper : isFileName name = true) :
    stem? (directory ++ "/" ++ name) = some (cutExtension name).1 := by
  have last : fileName (directory ++ "/" ++ name) = name := by
    simp [fileName, split_append_slash, split_of_not_mem whole]
  rw [stem?, last, if_pos proper]

/-- A name with a dot between two other parts is not made of dots that stand for a directory. -/
theorem isFileName_of_dotted {stem extension : String} (some? : stem ≠ "") (some' : extension ≠ "") :
    isFileName (stem ++ "." ++ extension) = true := by
  obtain ⟨c, cs, front⟩ := List.exists_cons_of_ne_nil (show stem.toList ≠ [] by simpa using some?)
  obtain ⟨d, ds, back⟩ := List.exists_cons_of_ne_nil (show extension.toList ≠ [] by simpa using some')
  have length : 3 ≤ (stem ++ "." ++ extension).toList.length := by
    simp [String.toList_append, front, back]
    omega
  have differs (name : String) (short : name.toList.length < 3) : stem ++ "." ++ extension ≠ name := by
    rintro rfl
    omega
  simp [isFileName, differs "" (by decide), differs "." (by decide), differs ".." (by decide)]

theorem exists_last_dot {text : String} (dotted : '.' ∈ text.toList) :
    ∃ front last, text = front ++ "." ++ last ∧ '.' ∉ last.toList := by
  obtain ⟨last, front, whole, fresh⟩ := List.eq_append_cons_of_mem (List.mem_reverse.mpr dotted)
  have forwards := congrArg List.reverse whole
  refine ⟨.ofList front.reverse, .ofList last.reverse, String.toList_inj.mp ?_, by simpa using fresh⟩
  simpa using forwards

end Text

namespace Policy

/-- A stem and an extension make a name that lies in one directory and has a stem of the role before its last dot. -/
structure ReadsBack (p : Policy) (role : Role) (stem extension : String) : Prop where
  wholeStem : '/' ∉ stem.toList
  wholeExtension : '/' ∉ extension.toList
  read : '.' ∉ extension.toList ∨ ∃ front last, extension = front ++ "." ++ last ∧ '.' ∉ last.toList ∧
    stem ++ "." ++ front ∈ p.stemsOf role

variable {p : Policy} {role : Role} {stem extension directory : String}

/-- What stands before the last dot of the name is a stem of the role. -/
theorem cutExtension_mem_stemsOf_iff (own : stem ∈ p.stemsOf role) (named : stem ≠ "") :
    (Text.cutExtension (stem ++ "." ++ extension)).1 ∈ p.stemsOf role ↔
      '.' ∉ extension.toList ∨ ∃ front last, extension = front ++ "." ++ last ∧ '.' ∉ last.toList ∧
        stem ++ "." ++ front ∈ p.stemsOf role := by
  by_cases dotted : '.' ∈ extension.toList
  · obtain ⟨front, last, rfl, plain⟩ := Text.exists_last_dot dotted
    have spelt : stem ++ "." ++ (front ++ "." ++ last) = stem ++ "." ++ front ++ "." ++ last := by
      simp only [String.append_assoc]
    rw [spelt, Text.cutExtension_append (by simp) plain]
    refine ⟨fun read => .inr ⟨front, last, rfl, plain, read⟩, ?_⟩
    rintro (undotted | ⟨front', last', same, plain', read⟩)
    · exact absurd dotted undotted
    · have texts : front.toList ++ '.' :: last.toList = front'.toList ++ '.' :: last'.toList := by
        simpa using congrArg String.toList same
      obtain ⟨fronts, -⟩ := Text.eq_of_last_separator plain plain' texts
      rwa [String.toList_inj.mp fronts]
  · rw [Text.cutExtension_append named dotted]
    exact ⟨fun _ => .inl dotted, fun _ => own⟩

theorem readsBack_iff (own : stem ∈ p.stemsOf role) (named : stem ≠ "") (spelt : extension ≠ "")
    (some? : directory ≠ "") : p.ReadsBack role stem extension ↔
      Text.LiesIn (directory ++ "/" ++ (stem ++ "." ++ extension)) directory ∧
        ∃ read ∈ p.stemsOf role, Text.stem? (directory ++ "/" ++ (stem ++ "." ++ extension)) = some read := by
  have whole : '/' ∉ (stem ++ "." ++ extension).toList ↔ '/' ∉ stem.toList ∧ '/' ∉ extension.toList := by simp
  rw [Text.liesIn_append_slash some?]
  constructor
  · rintro ⟨wholeStem, wholeExtension, read⟩
    have lies := whole.mpr ⟨wholeStem, wholeExtension⟩
    refine ⟨lies, _, (cutExtension_mem_stemsOf_iff own named).mpr read, ?_⟩
    exact Text.stem?_append_slash lies (Text.isFileName_of_dotted named spelt)
  · rintro ⟨lies, read, listed, found⟩
    rw [Text.stem?_append_slash lies (Text.isFileName_of_dotted named spelt), Option.some.injEq] at found
    obtain ⟨wholeStem, wholeExtension⟩ := whole.mp lies
    exact ⟨wholeStem, wholeExtension, (cutExtension_mem_stemsOf_iff own named).mp (found ▸ listed)⟩

end Policy

namespace Analysis

open Layering.Graph (build)

theorem requiredFiles_eq_map (p : Policy) (severity : Severity) (g : Graph) : Check.requiredFiles p severity g =
    (lacking p g).map fun pair => Check.missingRole p severity pair.1 pair.2 := by
  simp only [Check.requiredFiles, lacking, List.map_flatMap, List.map_map]
  rfl

variable {document : Policy.Document} {p : Policy} {severity : Severity} {root : Path} {reader : Reader}
  {paths : List String} {m : Module} {role : Role} {v : Violation} {file : String}

/-- What a suggestion is made of. -/
theorem exists_of_suggestion
    (suggested : (Check.missingRole p severity m role).suggestion = some ("create `" ++ file ++ "`")) :
    ∃ stem extension, (p.stemsOf role).head? = some stem ∧ p.discovery.extensions.head? = some extension ∧
      file = m.directory ++ "/" ++ (stem ++ "." ++ extension) := by
  obtain ⟨expected, found, same⟩ := Option.map_eq_some_iff.mp suggested
  obtain rfl : expected = file := by simpa using same
  unfold Check.expectedFile? at found
  split at found
  · rename_i stem stems extension extensions ownStems ownExtensions
    refine ⟨stem, extension, by simp [ownStems], by simp [ownExtensions], ?_⟩
    simpa only [String.append_assoc] using (Option.some.inj found).symm
  · cases found

/-- A finding about a module and a role. -/
def Reports (found : List Violation) (m : Module) (role : Role) : Prop :=
  ∃ v ∈ found, v.location = .whole m.directory ∧
    v.message = "module `" ++ m.name ++ "` is missing its `" ++ role.text ++ "` file"

theorem reports_iff (stems : p.StemsFormed) (listed : m ∈ (build p root reader paths).modules) :
    Reports (Check.requiredFiles p severity (build p root reader paths)) m role ↔
      Lacks p (build p root reader paths) m role := by
  simp only [Reports, requiredFiles_eq_map, List.mem_map, mem_lacking stems]
  constructor
  · rintro ⟨_, ⟨⟨m', role'⟩, lacks, rfl⟩, place, message⟩
    have same : (Check.missingRole p severity m' role').message = (Check.missingRole p severity m role).message :=
      message
    obtain ⟨-, rfl⟩ := Check.missingRole_inj same
    obtain ⟨_, below⟩ := Graph.exists_isBelow listed
    obtain ⟨_, below'⟩ := Graph.exists_isBelow lacks.1
    obtain rfl : m' = m := below'.eq_of_directory below (congrArg (·.file.text) place)
    exact lacks
  · exact fun lacks => ⟨_, ⟨(m, role), lacks, rfl⟩, rfl, rfl⟩

/-- A module that lacked a file has it afterwards exactly if the new path is one. -/
theorem lacks_append_iff {reader' : Reader} (lacks : Lacks p (build p root reader paths) m role) :
    Lacks p (build p root reader' (paths ++ [file])) m role ↔
      ¬(Text.LiesIn file m.directory ∧ ∃ stem ∈ p.stemsOf role, Text.stem? file = some stem) := by
  obtain ⟨listed, required, absent⟩ := lacks
  obtain ⟨path, given, owned⟩ := Graph.mem_modules_build.mp listed
  have listed' : m ∈ (build p root reader' (paths ++ [file])).modules :=
    Graph.mem_modules_build.mpr ⟨path, List.mem_append_left _ given, owned⟩
  simp only [Lacks, listed', required, true_and, Graph.mem_inventory_build, List.mem_append, List.mem_singleton]
  refine not_congr ⟨?_, fun new => ⟨file, .inr rfl, new⟩⟩
  rintro ⟨path, given | rfl, present⟩
  · exact absurd ⟨path, Graph.mem_inventory_build.mpr given, present⟩ absent
  · exact present

/-- The file that is suggested for a missing role is spelt with the first stem of the role and the first extension of
sources. Adding its path, whatever is read from it, takes the finding away exactly if the name reads back as a stem of
the role. -/
theorem suggestion_settles_iff (accepted : Policy.load document = .ok p)
    (found : v ∈ Check.requiredFiles p severity (build p root reader paths))
    (suggested : v.suggestion = some ("create `" ++ file ++ "`")) :
    ∃ m ∈ (build p root reader paths).modules, ∃ role ∈ p.modules.required, ∃ stem extension,
      v = Check.missingRole p severity m role ∧
      (p.stemsOf role).head? = some stem ∧ p.discovery.extensions.head? = some extension ∧
      file = m.directory ++ "/" ++ (stem ++ "." ++ extension) ∧
      ∀ reader', ¬Reports (Check.requiredFiles p severity (build p root reader' (paths ++ [file]))) m role ↔
        p.ReadsBack role stem extension := by
  have formed := Policy.load_formed accepted
  have stems := Policy.load_stemsFormed accepted
  rw [requiredFiles_eq_map] at found
  obtain ⟨⟨m, role⟩, absent, rfl⟩ := List.mem_map.mp found
  have lacks : Lacks p (build p root reader paths) m role := (mem_lacking stems).mp absent
  have listed := lacks.1
  obtain ⟨stem, extension, firstStem, firstExtension, rfl⟩ := exists_of_suggestion suggested
  refine ⟨m, listed, role, lacks.2.1, stem, extension, rfl, firstStem, firstExtension, rfl, fun reader' => ?_⟩
  obtain ⟨path, given, owned⟩ := Graph.mem_modules_build.mp listed
  have own := List.mem_of_head? firstStem
  have named := Policy.load_stems_ne accepted _ (Policy.mem_stemsOf.mp own)
  have spelt := (formed.discovery.extensions _ (List.mem_of_head? firstExtension)).1
  obtain ⟨_, below⟩ := Graph.exists_isBelow listed
  rw [reports_iff stems (Graph.mem_modules_build.mpr ⟨path, List.mem_append_left _ given, owned⟩),
    lacks_append_iff lacks, not_not, Policy.readsBack_iff own named spelt below.directory_ne]

section Suggested

open Layering.Policy (nestedRoots nestedRootsPolicy load_nestedRoots)

/-- The policy with modules below a directory that lies in another layer, for sources of the given extensions. -/
def cartDocument (extensions : List String) : Policy.Document := { nestedRoots with analyzer := { extensions } }

/-- What is loaded for it. -/
def cartPolicy (extensions : List String) : Policy :=
  { nestedRootsPolicy with discovery := { nestedRootsPolicy.discovery with extensions } }

theorem load_cart {extensions : List String}
    (checked : Policy.checkAnalyzer { extensions } = .ok (cartPolicy extensions).discovery) :
    Policy.load (cartDocument extensions) = .ok (cartPolicy extensions) :=
  Policy.load_eq_ok.mpr { Policy.load_eq_ok.mp load_nestedRoots with discovery := checked }

theorem stemsFormed_cart {extensions : List String} : (cartPolicy extensions).StemsFormed :=
  { Policy.load_stemsFormed load_nestedRoots with }

theorem lacks_store (extensions : List String) :
    Lacks (cartPolicy extensions) (build (cartPolicy extensions) ⟨""⟩ unread cartPaths) cart .store := by
  refine ⟨Graph.mem_modules_build.mpr (Graph.mem_modules_build.mp cart_mem_modules :), ?_, ?_⟩
  · exact show Role.store ∈ nestedRootsPolicy.modules.required by decide
  · rintro ⟨path, given, lies, stem, own, spelt⟩
    rcases List.mem_pair.mp (Graph.mem_inventory_build.mp given) with rfl | rfl
    · obtain rfl : "ui" = stem := Option.some.inj ((by decide +kernel : _ = some "ui").symm.trans spelt)
      exact absurd (Policy.mem_stemsOf.mp own) (show ("ui", Role.store) ∉ nestedRootsPolicy.stems by decide +kernel)
    · exact absurd lies.parent_eq (by decide +kernel)

theorem missingRole_mem (extensions : List String) : Check.missingRole (cartPolicy extensions) .error cart .store ∈
    Check.requiredFiles (cartPolicy extensions) .error (build (cartPolicy extensions) ⟨""⟩ unread cartPaths) := by
  rw [requiredFiles_eq_map]
  exact List.mem_map.mpr ⟨(cart, .store), (mem_lacking stemsFormed_cart).mpr (lacks_store extensions), rfl⟩

theorem suggestion_settles_iff_store : Policy.load (cartDocument ["ts"]) = .ok (cartPolicy ["ts"]) ∧
    let found paths := Check.requiredFiles (cartPolicy ["ts"]) .error (build (cartPolicy ["ts"]) ⟨""⟩ unread paths)
    (∃ v ∈ found cartPaths, v.suggestion = some ("create `" ++ "src/features/cart/store.ts" ++ "`")) ∧
      Reports (found cartPaths) cart .store ∧
      ¬Reports (found (cartPaths ++ ["src/features/cart/store.ts"])) cart .store := by
  have accepted : Policy.load (cartDocument ["ts"]) = .ok (cartPolicy ["ts"]) := load_cart (by decide +kernel)
  have suggested : (Check.missingRole (cartPolicy ["ts"]) .error cart .store).suggestion =
      some ("create `" ++ "src/features/cart/store.ts" ++ "`") := by decide +kernel
  refine ⟨accepted, ⟨_, missingRole_mem _, suggested⟩, ⟨_, missingRole_mem _, rfl, by decide +kernel⟩, ?_⟩
  obtain ⟨⟨name, directory⟩, -, role, -, stem, extension, same, firstStem, firstExtension, -, settled⟩ :=
    suggestion_settles_iff accepted (missingRole_mem _) suggested
  obtain ⟨rfl, rfl⟩ := Check.missingRole_inj (congrArg (·.message) same)
  obtain rfl : cart.directory = directory := congrArg (·.location.file.text) same
  obtain rfl : "store" = stem := Option.some.inj ((by decide +kernel : _ = some "store").symm.trans firstStem)
  obtain rfl : "ts" = extension := Option.some.inj firstExtension
  exact (settled unread).mpr ⟨by decide, by decide, .inl (by decide)⟩

/-- An extension with a dot is taken for a part of the stem when the suggested name is read again. -/
theorem suggestion_unsettled_declaration : Policy.load (cartDocument ["d.ts", "ts"]) = .ok (cartPolicy ["d.ts", "ts"]) ∧
    let found paths := Check.requiredFiles (cartPolicy ["d.ts", "ts"]) .error
      (build (cartPolicy ["d.ts", "ts"]) ⟨""⟩ unread paths)
    (∃ v ∈ found cartPaths, v.location = .whole cart.directory ∧
        v.message = "module `cart` is missing its `store` file" ∧
        v.suggestion = some "create `src/features/cart/store.d.ts`") ∧
      Reports (found (cartPaths ++ ["src/features/cart/store.d.ts"])) cart .store := by
  have accepted : Policy.load (cartDocument ["d.ts", "ts"]) = .ok (cartPolicy ["d.ts", "ts"]) :=
    load_cart (by decide +kernel)
  refine ⟨accepted, ⟨_, missingRole_mem _, rfl, by decide +kernel, by decide +kernel⟩, ?_⟩
  have lacks : Lacks (cartPolicy ["d.ts", "ts"])
      (build (cartPolicy ["d.ts", "ts"]) ⟨""⟩ unread (cartPaths ++ ["src/features/cart/store.d.ts"])) cart .store := by
    refine (lacks_append_iff (lacks_store _)).mpr ?_
    rintro ⟨-, stem, own, read⟩
    obtain rfl : "store.d" = stem := Option.some.inj ((by decide +kernel : _ = some "store.d").symm.trans read)
    exact absurd (Policy.mem_stemsOf.mp own) (by decide +kernel)
  exact (reports_iff (Policy.load_stemsFormed accepted) lacks.1).mpr lacks

end Suggested

end Analysis

end Layering
