import GoAtlas.Config
import GoAtlas.Proofs.Json.Printing
import GoAtlas.Proofs.Text.Utf8

/-!
Configurations in files. Setting fields one after the other adopts them, in whatever order; so an
object that holds some fields of a configuration gives these and leaves the others at their
defaults, and the file that is written for a configuration gives it back.
-/

namespace GoAtlas

/-! ### Values of fields -/

namespace Document

theorem texts?_texts (content : List String) : (texts content).value.texts? = some content := by
  have each (items : List String) :
      (values (items.map text)).mapM Json.Value.text? = some items := by
    induction items with
    | nil => rfl
    | cons item items inductionHypothesis =>
        simp [values, value, Json.Value.text?, inductionHypothesis]
  exact each content

theorem word?_number {content : Nat} (fits : content < Text.wordLimit) :
    (number content).value.word? = some content :=
  Text.word?_toDigits fits

end Document

namespace Config

/-! ### Adopted fields -/

/-- A configuration with the named fields of another one. -/
def adopt (base config : Config) (names : List String) : Config where
  skipDirs := if "skip_dirs" ∈ names then config.skipDirs else base.skipDirs
  packageDepth := if "package_depth" ∈ names then config.packageDepth else base.packageDepth
  maxDepth := if "max_depth" ∈ names then config.maxDepth else base.maxDepth
  resolveInterfaces :=
    if "resolve_interfaces" ∈ names then config.resolveInterfaces else base.resolveInterfaces
  trackGoroutines :=
    if "track_goroutines" ∈ names then config.trackGoroutines else base.trackGoroutines
  receiverNameFallback :=
    if "receiver_name_fallback" ∈ names then config.receiverNameFallback
    else base.receiverNameFallback
  excludePackages :=
    if "exclude_packages" ∈ names then config.excludePackages else base.excludePackages
  includeCalls := if "include_calls" ∈ names then config.includeCalls else base.includeCalls

theorem adopt_nil (base config : Config) : base.adopt config [] = base := rfl

theorem adopt_congr (base config : Config) {names others : List String}
    (same : ∀ name ∈ fieldNames, name ∈ names ↔ name ∈ others) :
    base.adopt config names = base.adopt config others := by
  simp only [fieldNames, List.forall_mem_cons] at same
  simp only [adopt, same]

theorem adopt_all (base config : Config) : base.adopt config fieldNames = config := rfl

/-- The fields of a configuration as members of an object. -/
def members (config : Config) : List (String × Json.Value) :=
  [("skip_dirs", (Document.texts config.skipDirs).value),
    ("package_depth", (Document.number config.packageDepth).value),
    ("max_depth", (Document.number config.maxDepth).value),
    ("resolve_interfaces", .flag config.resolveInterfaces),
    ("track_goroutines", .flag config.trackGoroutines),
    ("receiver_name_fallback", .flag config.receiverNameFallback),
    ("exclude_packages", (Document.texts config.excludePackages).value),
    ("include_calls", .flag config.includeCalls)]

theorem names_members (config : Config) : config.members.map Prod.fst = fieldNames := rfl

/-- Both depths are words. -/
structure HasWords (config : Config) : Prop where
  packageDepth : config.packageDepth < Text.wordLimit
  maxDepth : config.maxDepth < Text.wordLimit

theorem set?_adopt (base : Config) {config : Config} (words : config.HasWords)
    (names : List String) {name : String} {value : Json.Value}
    (member : (name, value) ∈ config.members) :
    (base.adopt config names).set? name value = some (base.adopt config (name :: names)) := by
  simp only [members, List.mem_cons, Prod.mk.injEq, List.not_mem_nil, or_false] at member
  rcases member with ⟨rfl, rfl⟩ | ⟨rfl, rfl⟩ | ⟨rfl, rfl⟩ | ⟨rfl, rfl⟩ | ⟨rfl, rfl⟩ | ⟨rfl, rfl⟩ |
    ⟨rfl, rfl⟩ | ⟨rfl, rfl⟩
  all_goals
    simp [set?, adopt, Json.Value.flag?, Document.texts?_texts,
      Document.word?_number words.packageDepth, Document.word?_number words.maxDepth]

/-- Fields of a configuration that are set in turn are adopted. -/
theorem setAll?_adopt (base : Config) {config : Config} (words : config.HasWords)
    (fields : List (String × Json.Value)) (given : fields ⊆ config.members)
    (names : List String) :
    (base.adopt config names).setAll? fields =
      some (base.adopt config ((fields.map Prod.fst).reverse ++ names)) := by
  induction fields generalizing names with
  | nil => rfl
  | cons field fields inductionHypothesis =>
      obtain ⟨name, value⟩ := field
      obtain ⟨member, rest⟩ := List.cons_subset.mp given
      rw [setAll?, set?_adopt base words names member, Option.bind_some,
        inductionHypothesis rest]
      simp

/-! ### Members of an object -/

/-- Members whose names are texts. -/
def named (members : List (String × Json.Value)) : List (Option String × Json.Value) :=
  members.map fun (name, value) => (some name, value)

theorem fieldsOf?_named (members : List (String × Json.Value)) :
    fieldsOf? (named members) =
      let fields := members.filter fun (name, _) => fieldNames.contains name
      if (fields.map Prod.fst).Nodup then some fields else none := by
  have each : members.mapM (fun member => some (member.1, member.2)) = some members := by
    induction members with
    | nil => rfl
    | cons member members inductionHypothesis => simp [inductionHypothesis]
  simp [fieldsOf?, named, List.mapM_map, Function.comp_def, each]

/-- The members for some of the fields. -/
def membersFor (config : Config) (names : List String) : List (String × Json.Value) :=
  config.members.filter fun (name, _) => names.contains name

theorem mem_names_membersFor (config : Config) (names : List String) (name : String) :
    name ∈ (config.membersFor names).map Prod.fst ↔ name ∈ fieldNames ∧ name ∈ names := by
  simp [membersFor, ← config.names_members]

theorem nodup_names_membersFor (config : Config) (names : List String) :
    ((config.membersFor names).map Prod.fst).Nodup := by
  have distinct : fieldNames.Nodup := by decide
  rw [← config.names_members] at distinct
  exact distinct.sublist (List.filter_sublist.map Prod.fst)

/-- What an object holds beside fields of a configuration under other names is left out. -/
theorem filter_known {config : Config} {names : List String}
    {others members : List (String × Json.Value)} (unknown : ∀ other ∈ others, other.1 ∉ fieldNames)
    (held : members.Perm (config.membersFor names ++ others)) :
    (members.filter fun (name, _) => fieldNames.contains name).Perm (config.membersFor names) := by
  have ofFields : (config.membersFor names).filter (fun (name, _) => fieldNames.contains name) =
      config.membersFor names := by
    rw [List.filter_eq_self]
    intro member isMember
    have known := (config.mem_names_membersFor names member.1).mp (List.mem_map_of_mem isMember)
    simpa using known.1
  have ofOthers : others.filter (fun (name, _) => fieldNames.contains name) = [] := by
    simpa using unknown
  have kept := held.filter fun (name, _) => fieldNames.contains name
  rwa [List.filter_append, ofFields, ofOthers, List.append_nil] at kept

/-- An object that holds some fields of a configuration, and whatever else under other names, gives
these fields and leaves the others at their defaults. -/
theorem ofValue?_named {config : Config} (words : config.HasWords) (names : List String)
    {others members : List (String × Json.Value)} (unknown : ∀ other ∈ others, other.1 ∉ fieldNames)
    (held : members.Perm (config.membersFor names ++ others)) :
    ofValue? (.object (named members)) = some (standard.adopt config names) := by
  have kept := filter_known unknown held
  generalize fieldsHeld : members.filter (fun (name, _) => fieldNames.contains name) =
    fields at kept
  have distinct : (fields.map Prod.fst).Nodup :=
    (kept.map Prod.fst).nodup_iff.mpr (config.nodup_names_membersFor names)
  have given : fields ⊆ config.members := by
    intro field isField
    exact (List.mem_filter.mp (kept.mem_iff.mp isField)).1
  have adopted := setAll?_adopt standard words fields given []
  rw [adopt_nil] at adopted
  have sameNames : ∀ name ∈ fieldNames,
      name ∈ (fields.map Prod.fst).reverse ++ [] ↔ name ∈ names := by
    intro name isField
    rw [List.append_nil, List.mem_reverse, (kept.map Prod.fst).mem_iff, mem_names_membersFor]
    exact and_iff_right isField
  rw [ofValue?, fieldsOf?_named, fieldsHeld]
  dsimp only
  rw [if_pos distinct, Option.bind_some, ← adopt_congr standard config sameNames]
  exact adopted

/-! ### Files -/

/-- A file with a text is read as the configuration that the text holds. -/
theorem load_of_text {lookup : PathLookup} {path text : String}
    (held : lookup path = .ok (.file text.toUTF8.data.toList)) :
    load lookup path = .ok (read text) := by
  have content : readText lookup path = .ok text := by
    simp only [readText, held, bind, Except.bind, Text.Utf8.read?_toUTF8]
  simp only [load, held, content]

theorem read_of_spells {config : Config} (words : config.HasWords) (names : List String)
    {others members : List (String × Json.Value)} {text : String}
    (unknown : ∀ other ∈ others, other.1 ∉ fieldNames)
    (held : members.Perm (config.membersFor names ++ others))
    (spelled : Json.Spells (Json.Value.object (named members)).tokens text.toList) :
    read text = standard.adopt config names := by
  rw [read, Json.read?_of_spells spelled, Option.bind_some, ofValue?_named words names unknown held,
    Option.getD_some]

theorem value_document (config : Config) :
    config.document.value = .object (named config.members) := rfl

theorem read_print {config : Config} (words : config.HasWords) : read config.print = config := by
  have spelled := Json.spells_print config.document
  rw [value_document] at spelled
  have noOthers : ∀ other ∈ ([] : List (String × Json.Value)), other.1 ∉ fieldNames := by simp
  have whole : config.membersFor fieldNames ++ [] = config.members := rfl
  rw [print, read_of_spells words fieldNames noOthers (by rw [whole]) spelled, adopt_all]

/-- The file that is written for a configuration gives it back. And a file gives the fields that it
holds, in whatever order and spelling, and the defaults of the others, whatever else it holds. -/
theorem load_given {config : Config} (words : config.HasWords) (lookup : PathLookup)
    (path : String) :
    (lookup path = .ok (.file config.print.toUTF8.data.toList) →
      load lookup path = .ok config) ∧
    ∀ (names : List String) (others members : List (String × Json.Value)) (text : String),
      (∀ other ∈ others, other.1 ∉ fieldNames) →
      members.Perm (config.membersFor names ++ others) →
      Json.Spells (Json.Value.object (named members)).tokens text.toList →
      lookup path = .ok (.file text.toUTF8.data.toList) →
      load lookup path = .ok (standard.adopt config names) := by
  refine ⟨fun held => ?_, fun names others members text unknown permuted spelled held => ?_⟩
  · rw [load_of_text held, read_print words]
  · rw [load_of_text held, read_of_spells words names unknown permuted spelled]

/-- A configuration with the greatest depth and with names that are escaped, from its own file and
from one that holds two of its fields out of order, with others between them. -/
theorem load_given_out_of_order :
    let config : Config :=
      { standard with
        skipDirs := ["a\"b", "\\ü\n"], packageDepth := Text.wordLimit - 1, includeCalls := false }
    let document : Document :=
      .record [("include_calls", .flag false), ("colour", .text "red"),
        ("skip_dirs", .texts ["a\"b", "\\ü\n"]), ("verbose", .flag true)]
    config.HasWords ∧
      load (fun _ => .ok (.file config.print.toUTF8.data.toList)) "archgraph.json" = .ok config ∧
      load (fun _ => .ok (.file (Json.print document).toUTF8.data.toList)) "archgraph.json" =
        .ok { config with packageDepth := 3 } := by
  intro config document
  have words : config.HasWords := ⟨by decide, by decide⟩
  refine ⟨words, (load_given words _ _).1 rfl, ?_⟩
  exact (load_given words _ _).2 ["include_calls", "skip_dirs"]
    [("colour", .text (some "red")), ("verbose", .flag true)]
    [("include_calls", .flag false), ("colour", .text (some "red")),
      ("skip_dirs", (Document.texts ["a\"b", "\\ü\n"]).value), ("verbose", .flag true)]
    (Json.print document) (by decide) (@List.perm_middle _ _ [_, _] [_])
    (Json.spells_print document) rfl

end Config

end GoAtlas
