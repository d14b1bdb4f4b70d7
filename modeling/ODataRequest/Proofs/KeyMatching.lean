import ODataRequest.Proofs.CompositeKeys
import ODataRequest.Proofs.Growth
namespace ODataRequest

def firstOfEach {α : Type} : List (String × α) → List (String × α)
  | [] => []
  | entry :: rest => entry :: (firstOfEach rest).filter fun later => later.1 != entry.1

section Entries

variable {α : Type} {entries : List (String × α)}

theorem find?_firstOfEach (wanted : String → Bool) (entries : List (String × α)) :
    (firstOfEach entries).find? (fun entry => wanted entry.1) =
      entries.find? fun entry => wanted entry.1 := by
  induction entries with
  | nil => rfl
  | cons entry rest ih =>
    rw [firstOfEach, List.find?_cons, List.find?_cons, List.find?_filter]
    cases met : wanted entry.1 with
    | true => rfl
    | false =>
      have other : ∀ later : String × α,
          ((later.1 != entry.1) = true ∧ wanted later.1 = true) ↔ wanted later.1 = true := by
        intro later
        refine ⟨And.right, fun found => ⟨?_, found⟩⟩
        rw [bne_iff_ne]
        intro same
        rw [same, met] at found
        cases found
      simpa only [other, Bool.decide_eq_true] using ih

theorem lookupNamed_eq_find? (name : String) (entries : List (String × α)) :
    lookupNamed name entries = (entries.find? fun entry => entry.1 == name).map Prod.snd := by
  induction entries with
  | nil => rfl
  | cons entry rest ih =>
    by_cases same : entry.1 = name
    · simp [lookupNamed, same]
    · simp [lookupNamed, same, ih]

theorem lookupNamed_firstOfEach (name : String) (entries : List (String × α)) :
    lookupNamed name (firstOfEach entries) = lookupNamed name entries := by
  rw [lookupNamed_eq_find?, lookupNamed_eq_find?, find?_firstOfEach (· == name)]

theorem names_firstOfEach {name : String} :
    name ∈ (firstOfEach entries).map Prod.fst ↔ name ∈ entries.map Prod.fst := by
  induction entries with
  | nil => rfl
  | cons entry rest ih =>
    rw [firstOfEach, List.map_cons, List.map_cons, List.mem_cons, List.mem_cons, ← ih]
    by_cases first : name = entry.1
    · simp [first]
    · simp only [List.mem_map, List.mem_filter, bne_iff_ne]
      grind

theorem nodup_firstOfEach (entries : List (String × α)) :
    ((firstOfEach entries).map Prod.fst).Nodup := by
  induction entries with
  | nil => exact List.nodup_nil
  | cons entry rest ih =>
    rw [firstOfEach, List.map_cons, List.nodup_cons]
    constructor
    · simp
    · exact ih.sublist (List.filter_sublist.map Prod.fst)

theorem firstOfEach_of_nodup (distinct : (entries.map Prod.fst).Nodup) :
    firstOfEach entries = entries := by
  induction entries with
  | nil => rfl
  | cons entry rest ih =>
    rw [List.map_cons, List.nodup_cons] at distinct
    rw [firstOfEach, ih distinct.2, List.filter_eq_self.mpr]
    intro later member
    rw [bne_iff_ne]
    intro same
    exact distinct.1 (same ▸ List.mem_map_of_mem member)

end Entries

/-- One pair for each key property, with the text in which its value stands. -/
inductive Mapping.Paired (mapping : Mapping) :
    List (String × Value) → List (String × Property) → List String → Prop
  | none : Paired mapping [] [] []
  | next {pair : String × Value} {property : String × Property} {text : String}
      {pairs : List (String × Value)} {declared : List (String × Property)}
      {texts : List String} :
      mapping.KeyPair [pair] property text → Paired mapping pairs declared texts →
      Paired mapping (pair :: pairs) (property :: declared) (text :: texts)

/-- The pairs match the key properties one to one, in whatever order they are given. -/
def Mapping.OneToOne (mapping : Mapping) (pairs : List (String × Value))
    (declared : List (String × Property)) (texts : List String) : Prop :=
  ∃ matched, matched.Perm pairs ∧ mapping.Paired matched declared texts

/-- The key stands between parentheses behind the parts before it, its properties in declared
order, each with the first value given for it. -/
structure Mapping.Composed (mapping : Mapping) (before : List ResourcePart)
    (pairs : List (String × Value)) (declared : List (String × Property)) (texts : List String)
    (target : Target) : Prop where
  place : ∃ draft type element entity, (mapping.draft ⟨before⟩).outcome = .ok draft ∧
    draft.type = some type ∧ mapping.schema.Keyed type element entity declared ∧
    Text.Continued (draft.path ++ ("(" ++ Text.joined "," texts ++ ")")) target.address.path
  names : ∀ name, name ∈ pairs.map Prod.fst ↔ name ∈ declared.map Prod.fst
  written : List.Forall₂ (mapping.KeyPair (firstOfEach pairs)) declared texts

namespace Mapping

variable {mapping : Mapping} {root : String} {before after : List ResourcePart}
  {pairs matched : List (String × Value)} {declared : List (String × Property)}
  {texts : List String} {target : Target} {style : KeyStyle}

theorem Paired.names (paired : mapping.Paired matched declared texts) :
    matched.map Prod.fst = declared.map Prod.fst := by
  induction paired with
  | none => rfl
  | next written _ ih =>
    rcases written with ⟨value, _, given, _⟩
    cases List.mem_singleton.mp given
    exact congrArg _ ih

theorem paired_of_written (written : List.Forall₂ (mapping.KeyPair pairs) declared texts) :
    ∃ matched, mapping.Paired matched declared texts ∧ matched ⊆ pairs := by
  induction written with
  | nil => exact ⟨[], .none, List.nil_subset _⟩
  | cons head _ ih =>
    rcases head with ⟨value, literal, given, serialized, same⟩
    rcases ih with ⟨matched, paired, subset⟩
    refine ⟨_, .next ⟨value, literal, List.mem_singleton_self _, serialized, same⟩ paired, ?_⟩
    exact List.cons_subset.mpr ⟨given, subset⟩

theorem Composed.oneToOne (composed : mapping.Composed before pairs declared texts target)
    (distinct : (pairs.map Prod.fst).Nodup) (distinct' : (declared.map Prod.fst).Nodup) :
    mapping.OneToOne pairs declared texts := by
  have written := composed.written
  rw [firstOfEach_of_nodup distinct] at written
  rcases paired_of_written written with ⟨matched, paired, subset⟩
  have unique : (matched.map Prod.fst).Nodup := paired.names ▸ distinct'
  refine ⟨matched, ?_, paired⟩
  rw [List.perm_ext_iff_of_nodup unique.of_map distinct.of_map]
  intro pair
  refine ⟨fun member => subset member, ?_⟩
  intro given
  have named : pair.1 ∈ matched.map Prod.fst := by
    rw [paired.names]
    exact (composed.names pair.1).mp (List.mem_map_of_mem given)
  rcases List.mem_map.mp named with ⟨other, member, same⟩
  cases List.inj_on_of_nodup_map distinct (subset member) given same
  exact member

theorem OneToOne.names (oneToOne : mapping.OneToOne pairs declared texts) :
    (pairs.map Prod.fst).Perm (declared.map Prod.fst) := by
  rcases oneToOne with ⟨matched, reordered, paired⟩
  rw [← paired.names]
  exact reordered.symm.map Prod.fst

end Mapping

namespace Draft

variable {mapping : Mapping} {draft draft' : Draft} {parts : List ResourcePart}

/-- A pair whose name has come before plays no part, not even for an error. -/
theorem compositeText_firstOfEach (mapping : Mapping) (entity : ComplexType)
    (declared : List (String × Property)) (pairs : List (String × Value)) :
    compositeText mapping entity declared (firstOfEach pairs) =
      compositeText mapping entity declared pairs := by
  have each : keyPair mapping entity (firstOfEach pairs) = keyPair mapping entity pairs := by
    funext property
    rw [keyPair, keyPair, lookupNamed_firstOfEach]
  rw [compositeText, compositeText, each,
    find?_firstOfEach fun name => !(declared.map Prod.fst).contains name]

theorem addKey_firstOfEach (mapping : Mapping) (draft : Draft) (type : TypeRef) (style : KeyStyle)
    (pairs : List (String × Value)) :
    draft.addKey mapping type (.styled style (.composite (firstOfEach pairs))) =
      draft.addKey mapping type (.styled style (.composite pairs)) := by
  cases style <;> simp only [addKey, compositeText_firstOfEach]

theorem addPart_firstOfEach (mapping : Mapping) (draft : Draft) (style : KeyStyle)
    (pairs : List (String × Value)) :
    addPart mapping draft (.key (.styled style (.composite (firstOfEach pairs)))) =
      addPart mapping draft (.key (.styled style (.composite pairs))) := by
  simp only [addPart, addPathPart, addKey_firstOfEach]
  rfl

end Draft

namespace Mapping

variable {mapping : Mapping} {root : String} {before after : List ResourcePart}
  {pairs : List (String × Value)} {target : Target} {style : KeyStyle}

theorem withComposite_firstOfEach (mapping : Mapping) (root : String)
    (before : List ResourcePart) (style : KeyStyle) (pairs : List (String × Value))
    (after : List ResourcePart) :
    mapping.withComposite root before style (firstOfEach pairs) after =
      mapping.withComposite root before style pairs after := by
  have same : ∀ draft, Draft.addPart mapping draft
      (.key (.styled style (.composite (firstOfEach pairs)))) =
        Draft.addPart mapping draft (.key (.styled style (.composite pairs))) :=
    fun draft => Draft.addPart_firstOfEach mapping draft style pairs
  simp only [withComposite, withKey, map, draft, List.foldlM_append, List.foldlM_cons, same]

theorem composed_of_accepted
    (mapped : mapping.withComposite root before style pairs after = .ok target) :
    ∃ declared texts, mapping.Composed before pairs declared texts target := by
  rw [← withComposite_firstOfEach, withComposite, withKey, map_eq_ok_at] at mapped
  rcases mapped with ⟨draft, draft', final, reached, added, rest, finished⟩
  rcases Draft.addPart_key_eq_ok.mp added with
    ⟨_, type, element, entity, declared, text, typed, keyed, written, rfl⟩
  rcases Draft.keyText_composite.mp written with ⟨_, composed, rfl⟩
  rcases (Draft.compositeText_eq_ok (nodup_firstOfEach pairs)).mp composed with
    ⟨names, texts, each, rfl⟩
  have begun : draft.segments ≠ [] :=
    (Draft.consistent_draft reached).begun (Option.isSome_iff_exists.mpr ⟨type, typed⟩)
  have rooted : (draft.keyed element (.behind ("(" ++ Text.joined "," texts ++ ")"))).Rooted :=
    ⟨⟨element, rfl⟩, Draft.extendSegment_begun begun _ element⟩
  have path := (Draft.grown_addParts rooted rest).path
  rw [Draft.path_keyed begun] at path
  refine ⟨declared, texts, ⟨draft, type, element, entity, reached, typed, keyed, ?_⟩, ?_, each⟩
  · rw [(Draft.place_of_finish finished).2]
    exact path
  · intro name
    rw [← names name]
    exact names_firstOfEach.symm

/-- Whatever is given again under a name that has come before is ignored, in an accepted key as in
a refused one. So the pairs of an accepted key match the key properties one to one exactly when
no name is given twice, for a key that names no property twice. -/
theorem composite_matches_iff (mapping : Mapping) (root : String) (before : List ResourcePart)
    (style : KeyStyle) (pairs : List (String × Value)) (after : List ResourcePart) :
    mapping.withComposite root before style (firstOfEach pairs) after =
        mapping.withComposite root before style pairs after ∧
      ∀ target, mapping.withComposite root before style pairs after = .ok target →
        ∃ declared texts, mapping.Composed before pairs declared texts target ∧
          ((declared.map Prod.fst).Nodup →
            (mapping.OneToOne pairs declared texts ↔ (pairs.map Prod.fst).Nodup)) ∧
          ((pairs.map Prod.fst).Nodup →
            (mapping.OneToOne pairs declared texts ↔ (declared.map Prod.fst).Nodup)) := by
  refine ⟨withComposite_firstOfEach mapping root before style pairs after, ?_⟩
  intro target mapped
  rcases composed_of_accepted mapped with ⟨declared, texts, composed⟩
  refine ⟨declared, texts, composed, ?_, ?_⟩
  · intro distinct'
    refine ⟨fun matched => matched.names.nodup_iff.mpr distinct', ?_⟩
    exact fun distinct => composed.oneToOne distinct distinct'
  · intro distinct
    refine ⟨fun matched => matched.names.nodup_iff.mp distinct, ?_⟩
    exact fun distinct' => composed.oneToOne distinct distinct'

end Mapping

namespace Ledger

def givenTwice : List (String × Value) := given ++ [("Book", .string "C")]

theorem selected_givenTwice : selected .parenthesized givenTwice = .ok one := by
  with_unfolding_all rfl

theorem key_of_composed {pairs : List (String × Value)} {declared : List (String × Property)}
    {texts : List String} {target : Target}
    (composed : mapping.Composed [.entitySet entries] pairs declared texts target) :
    declared.map Prod.fst = ["Book", "No"] := by
  rcases composed.place with ⟨draft, type, element, entity, reached, typed, keyed, _⟩
  rw [Draft.draft_ofSet mapping entries] at reached
  cases reached
  have type_eq : entries.pathType = type := Option.some.inj typed
  rcases keyed with ⟨selects, listed⟩
  have names : (Draft.keyedElement mapping.schema entries.pathType >>= fun found =>
      (mapping.schema.keyProperties found.2).map fun key => key.map Prod.fst) =
        .ok ["Book", "No"] := by with_unfolding_all rfl
  rw [type_eq, selects] at names
  change (mapping.schema.keyProperties entity).map _ = _ at names
  rw [listed] at names
  exact Except.ok.inj names

end Ledger

theorem Mapping.composite_matches_iff_entry :
    Ledger.selected .parenthesized Ledger.given = .ok Ledger.one ∧
      (∃ declared texts,
        Ledger.mapping.Composed [.entitySet Ledger.entries] Ledger.given declared texts Ledger.one ∧
        (declared.map Prod.fst).Nodup ∧ (Ledger.given.map Prod.fst).Nodup ∧
        Ledger.mapping.OneToOne Ledger.given declared texts) ∧
      ∃ declared texts,
        Ledger.mapping.Composed [.entitySet Ledger.entries] Ledger.givenTwice declared texts
          Ledger.one ∧
        (declared.map Prod.fst).Nodup ∧
        ¬Ledger.mapping.OneToOne Ledger.givenTwice declared texts := by
  have key_distinct : ["Book", "No"].Nodup := by decide
  have repeated : ¬(Ledger.givenTwice.map Prod.fst).Nodup := by decide
  refine ⟨Ledger.selected_given, ?_, ?_⟩
  · rcases (composite_matches_iff Ledger.mapping "http://svc" [.entitySet Ledger.entries]
      .parenthesized Ledger.given []).2 Ledger.one Ledger.selected_given with
      ⟨declared, texts, composed, matched, _⟩
    have distinct : (declared.map Prod.fst).Nodup :=
      (Ledger.key_of_composed composed).symm ▸ key_distinct
    exact ⟨declared, texts, composed, distinct, Ledger.given_distinct,
      (matched distinct).mpr Ledger.given_distinct⟩
  · rcases (composite_matches_iff Ledger.mapping "http://svc" [.entitySet Ledger.entries]
      .parenthesized Ledger.givenTwice []).2 Ledger.one Ledger.selected_givenTwice with
      ⟨declared, texts, composed, matched, _⟩
    have distinct : (declared.map Prod.fst).Nodup :=
      (Ledger.key_of_composed composed).symm ▸ key_distinct
    exact ⟨declared, texts, composed, distinct, mt (matched distinct).mp repeated⟩

/-- The second book is accepted and leaves no trace in the address. -/
theorem Mapping.second_book_ignored :
    ¬(Ledger.givenTwice.map Prod.fst).Nodup ∧
      Ledger.selected .parenthesized Ledger.givenTwice = .ok Ledger.one ∧
      Ledger.one.address.path = "Entries(Book='A%2FB',No=7)" :=
  ⟨by decide, Ledger.selected_givenTwice, by with_unfolding_all rfl⟩

end ODataRequest
