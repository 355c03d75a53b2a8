import ThemeBlocks.Proofs.Block.Accepted
import ThemeBlocks.Proofs.Query.Grammar
import ThemeBlocks.Query.Template

/-! The selections of a registry read back. Type names go into the query as they are, and the registry
asks only for two capitals and no slash. So the query has one fragment for each block exactly when every
type name is a name of GraphQL; an accepted type name that is none breaks the query, or gives it another
structure. -/

namespace ThemeBlocks.Query

theorem Scan.follow_append (scan : Scan) (front back : List Char) :
    scan.follow (front ++ back) = (scan.follow front).bind (·.follow back) :=
  List.foldlM_append

/-- A text that begins and ends between two tokens. -/
def Spells (text : List Char) (tokens : List Token) : Prop :=
  ∀ before, Scan.follow ⟨before, .between⟩ text = some ⟨tokens.reverse ++ before, .between⟩

theorem Spells.append {front back : List Char} {tokens more : List Token} (hf : Spells front tokens)
    (hb : Spells back more) : Spells (front ++ back) (tokens ++ more) := by
  intro before
  rw [Scan.follow_append, hf before, Option.bind_some, hb]
  simp

theorem spells_flatMap {α : Type} {text : α → List Char} {word : α → List Token} {xs : List α}
    (h : ∀ x ∈ xs, Spells (text x) (word x)) : Spells (xs.flatMap text) (xs.flatMap word) := by
  induction xs with
  | nil => exact fun _ => rfl
  | cons x xs ih =>
    obtain ⟨hx, hxs⟩ := List.forall_mem_cons.1 h
    simpa using hx.append (ih hxs)

theorem scan_of_spells {text : String} {tokens : List Token} (h : Spells text.toList tokens) :
    scan text = some tokens := by
  simp [scan, h [], Scan.finish]

theorem follow_nameRest (tokens : List Token) (read : List Char) {more : List Char}
    (h : more.all isNamePart) :
    Scan.follow ⟨tokens, .name read⟩ more = some ⟨tokens, .name (read ++ more)⟩ := by
  induction more generalizing read with
  | nil => simp [Scan.follow]
  | cons c more ih =>
    obtain ⟨hc, hmore⟩ : isNamePart c ∧ more.all isNamePart := by simpa using h
    have hrest := ih (read ++ [c]) hmore
    simpa [Scan.follow, Scan.next, hc] using hrest

theorem begin_of_isNameStart {c : Char} (h : isNameStart c) (tokens : List Token) :
    Scan.begin tokens c = some ⟨tokens, .name [c]⟩ := by
  have hne : ∀ d : Char, isNameStart d = false → c ≠ d := by
    rintro d hd rfl
    simp [hd] at h
  have hignored : isIgnored c = false := by
    simp [isIgnored, hne ' ' rfl, hne '\t' rfl, hne '\n' rfl, hne '\r' rfl, hne ',' rfl,
      hne '\ufeff' rfl]
  simp [Scan.begin, hignored, hne '#' rfl, hne '.' rfl, h]

theorem follow_name {name : String} (h : isName name) (tokens : List Token) :
    Scan.follow ⟨tokens, .between⟩ name.toList = some ⟨tokens, .name name.toList⟩ := by
  unfold isName at h
  cases hname : name.toList with
  | nil => simp [hname, isNameText] at h
  | cons c rest =>
    obtain ⟨hc, hrest⟩ : isNameStart c ∧ rest.all isNamePart := by
      simpa [hname, isNameText] using h
    have hfirst : Scan.next ⟨tokens, .between⟩ c = some ⟨tokens, .name [c]⟩ :=
      begin_of_isNameStart hc tokens
    have hfollow := follow_nameRest tokens [c] hrest
    simpa [Scan.follow, hfirst] using hfollow

def wanted (typeName : String) : Selection :=
  .inline (some typeName)
    [.field none "apiVersion" [], .field none "attributes" [.field none "data" []]]

def wantedTokens (typeName : String) : List Token :=
  [.spread, .name "on", .name typeName, .mark '{', .name "apiVersion", .name "attributes", .mark '{',
    .name "data", .mark '}', .mark '}']

theorem spells_selection {typeName : String} (h : isName typeName) :
    Spells (selection typeName).toList (wantedTokens typeName) := by
  have hopening : Spells "\n... on ".toList [.spread, .name "on"] := fun _ => rfl
  have hset : ∀ tokens read, Scan.follow ⟨tokens, .name read⟩
      " \x7b\n  apiVersion\n  attributes \x7b\n    data\n  \x7d\n\x7d".toList =
        some ⟨((wantedTokens (.ofList read)).drop 2).reverse ++ tokens, .between⟩ := fun _ _ => rfl
  have htype : Spells (typeName.toList ++
      " \x7b\n  apiVersion\n  attributes \x7b\n    data\n  \x7d\n\x7d".toList)
        ((wantedTokens typeName).drop 2) := by
    intro before
    rw [Scan.follow_append, follow_name h, Option.bind_some, hset, String.ofList_toList]
  have hall := hopening.append htype
  rw [selection, String.toList_append, String.toList_append, List.append_assoc]
  exact hall

theorem follow_wantedTokens (selections : List Selection) (typeName : String) :
    Reading.follow { selections } (wantedTokens typeName) =
      some { selections := selections ++ [wanted typeName] } :=
  rfl

theorem Reading.follow_append (reading : Reading) (front back : List Token) :
    reading.follow (front ++ back) = (reading.follow front).bind (·.follow back) :=
  List.foldlM_append

theorem follow_flatMap_wantedTokens (selections : List Selection) (typeNames : List String) :
    Reading.follow { selections } (typeNames.flatMap wantedTokens) =
      some { selections := selections ++ typeNames.map wanted } := by
  induction typeNames generalizing selections with
  | nil => simp [Reading.follow]
  | cons typeName typeNames ih =>
    rw [List.flatMap_cons, Reading.follow_append, follow_wantedTokens, Option.bind_some, ih]
    simp

def selections (blocks : List Block.Descriptor) : String :=
  String.join (blocks.map fun block => selection block.typeName)

theorem readSelections?_selections {blocks : List Block.Descriptor}
    (h : ∀ block ∈ blocks, isName block.typeName) :
    readSelections? (selections blocks) = some (blocks.map fun block => wanted block.typeName) := by
  have hspells := spells_flatMap fun block hblock => spells_selection (h block hblock)
  have hscan : scan (selections blocks) =
      some ((blocks.map (·.typeName)).flatMap wantedTokens) := by
    refine scan_of_spells ?_
    simpa [selections, String.toList_join, List.flatMap_map] using hspells
  have hfollow := follow_flatMap_wantedTokens [] (blocks.map (·.typeName))
  simp [readSelections?, hscan, hfollow, Reading.finish]

theorem readSelections?_selections_iff {blocks : List Block.Descriptor} :
    readSelections? (selections blocks) = some (blocks.map fun block => wanted block.typeName) ↔
      ∀ block ∈ blocks, isName block.typeName := by
  refine ⟨fun h block hblock => ?_, readSelections?_selections⟩
  exact isName_of_readSelections? h _ (List.mem_map_of_mem hblock) block.typeName rfl

theorem build_eq_selections (registry : Registry) (h : registry.blocks ≠ []) :
    build registry.blocks = .ok (some (selections registry.blocks)) := by
  have hempty : registry.blocks.isEmpty = false := by simpa using h
  simp [build, registry.checkTypes_blocks, hempty, selections, Bind.bind, Except.bind]

/-- The query of a registry asks one fragment of each block, in the order of the registry and with the
block's type name as its type, exactly when all type names are names. The registry does not see to that. -/
theorem build_reads_iff (registry : Registry) (h : registry.blocks ≠ []) :
    ∃ text, build registry.blocks = .ok (some text) ∧
      (readSelections? text = some (registry.blocks.map fun block => wanted block.typeName) ↔
        ∀ block ∈ registry.blocks, isName block.typeName) :=
  ⟨selections registry.blocks, build_eq_selections registry h, readSelections?_selections_iff⟩

def twoNames : Registry where
  blocks := [{ blockName := "hero", displayName := "Hero", typeName := "AcfHero" },
    { blockName := "text", displayName := "", typeName := "_9TB" }]
  accepted := rfl

theorem build_reads_twoNames :
    twoNames.blocks ≠ [] ∧ ∃ text, build twoNames.blocks = .ok (some text) ∧
      readSelections? text = some [wanted "AcfHero", wanted "_9TB"] := by
  have hne : twoNames.blocks ≠ [] := by simp [twoNames]
  obtain ⟨text, hbuild, hreads⟩ := build_reads_iff twoNames hne
  exact ⟨hne, text, hbuild, hreads.2 (by decide)⟩

/-- A type name that closes its fragment and opens another. -/
def divided : Registry where
  blocks := [{ blockName := "a", displayName := "", typeName := "A \x7b id \x7d ... on B" }]
  accepted := rfl

theorem divided_reads_twice :
    ∃ text, build divided.blocks = .ok (some text) ∧
      readSelections? text = some [.inline (some "A") [.field none "id" []], wanted "B"] ∧
      readSelections? text ≠ some (divided.blocks.map fun block => wanted block.typeName) := by
  have hread : readSelections? (selections divided.blocks) =
      some [.inline (some "A") [.field none "id" []], wanted "B"] := rfl
  refine ⟨_, build_eq_selections divided (by simp [divided]), hread, ?_⟩
  rw [hread]
  simp [divided]

end ThemeBlocks.Query
