import ODataRequest.Proofs.KeyTexts
import ODataRequest.Proofs.PathEncoding
namespace ODataRequest

/-!
A text as a segment of its own. What is encoded holds no slash and can be decoded, so a text stays
within its segment. But encoding leaves dots as they are, and those who normalise a path take a
segment of one or two dots for a step within the path.
-/

namespace Text

def segments (path : String) : List String := (path.toList.splitOn '/').map String.ofList

def IsDots (segment : String) : Prop := segment = "." ∨ segment = ".."

instance (segment : String) : Decidable (IsDots segment) :=
  inferInstanceAs (Decidable (segment = "." ∨ segment = ".."))

def follow (kept : List String) (segment : String) : List String :=
  if segment = "." then kept
  else if segment = ".." then kept.dropLast
  else kept ++ [segment]

/-- The segments of a normalised path. Dots at its end leave their slash. -/
def normalised (segments : List String) : List String :=
  let kept := segments.foldl follow []
  if segments.getLast?.any (IsDots ·) then kept ++ [""] else kept

def Settled (segments : List String) : Prop := normalised segments = segments

instance (segments : List String) : Decidable (Settled segments) :=
  inferInstanceAs (Decidable (normalised segments = segments))

variable {path segment text : String} {kept segments : List String}

theorem segments_append (path : String) (single : '/' ∉ segment.toList) :
    Text.segments (path ++ "/" ++ segment) = Text.segments path ++ [segment] := by
  have chars : (path ++ "/" ++ segment).toList = path.toList ++ '/' :: segment.toList := by simp
  have parted : (path.toList ++ '/' :: segment.toList).splitOn '/' =
      path.toList.splitOn '/' ++ segment.toList.splitOn '/' :=
    List.splitOnP_append_cons _ _ (beq_self_eq_true '/')
  rw [Text.segments, chars, parted, List.splitOn_eq_singleton single, List.map_append,
    List.map_singleton, String.ofList_toList, Text.segments]

theorem follow_plain (plain : ¬IsDots segment) : follow kept segment = kept ++ [segment] := by
  rw [IsDots, not_or] at plain
  rw [follow, if_neg plain.1, if_neg plain.2]

theorem plain_of_follow (before : ∀ segment ∈ kept, ¬IsDots segment) :
    ∀ left ∈ follow kept segment, ¬IsDots left := by
  unfold follow
  split
  · exact before
  · split
    · exact fun left member => before left (List.dropLast_subset kept member)
    · intro left member
      rcases List.mem_append.mp member with member | member
      · exact before left member
      · cases List.mem_singleton.mp member
        rintro (one | two) <;> contradiction

theorem plain_of_follows (before : ∀ segment ∈ kept, ¬IsDots segment) :
    ∀ left ∈ segments.foldl follow kept, ¬IsDots left := by
  induction segments generalizing kept with
  | nil => exact before
  | cons head rest ih => exact ih (plain_of_follow before)

theorem follows_plain (plain : ∀ segment ∈ segments, ¬IsDots segment) :
    segments.foldl follow kept = kept ++ segments := by
  induction segments generalizing kept with
  | nil => exact (List.append_nil kept).symm
  | cons head rest ih =>
    rw [List.foldl_cons, follow_plain (plain head List.mem_cons_self),
      ih fun segment member => plain segment (List.mem_cons_of_mem _ member), List.append_assoc]
    rfl

theorem settled_iff : Settled segments ↔ ∀ segment ∈ segments, ¬IsDots segment := by
  constructor
  · intro settled segment member
    rw [← show normalised segments = segments from settled] at member
    have kept : ∀ left ∈ segments.foldl follow [], ¬IsDots left := plain_of_follows nofun
    unfold normalised at member
    split at member
    · rcases List.mem_append.mp member with member | member
      · exact kept segment member
      · cases List.mem_singleton.mp member
        decide
    · exact kept segment member
  · intro plain
    have last : ¬segments.getLast?.any (IsDots ·) = true := by
      intro dots
      rcases (Option.any_eq_true _ _).mp dots with ⟨segment, last, held⟩
      exact plain segment (List.mem_of_getLast? last) (of_decide_eq_true held)
    rw [Settled, normalised, if_neg last, follows_plain plain, List.nil_append]

theorem encodeComponent_eq_iff {mark : String} (own : encodeComponent mark = mark) :
    encodeComponent text = mark ↔ text = mark := by
  rw [← encodeComponent_injective.eq_iff (a := text), own]

theorem isDots_encodeComponent : IsDots (encodeComponent text) ↔ IsDots text := by
  rw [IsDots, IsDots, encodeComponent_eq_iff (by decide), encodeComponent_eq_iff (by decide)]

end Text

namespace Mapping

def withText (mapping : Mapping) (root : String) (before : List ResourcePart) (text : String) :
    Except Error Target :=
  mapping.withKey root before (.styled .segment (.single (.string text))) []

variable {mapping : Mapping} {root : String} {before : List ResourcePart} {target target' : Target}
  {text : String}

theorem withText_eq_ok (accepted : (mapping.map root ⟨before⟩).outcome = .ok target) :
    mapping.withText root before text = .ok target' ↔ ∃ element entity name property,
      mapping.schema.Keyed target.type element entity [(name, property)] ∧
        target' = target.keyed element (.apart (Draft.encoded mapping text)) := by
  rw [withText, withKey_eq_ok accepted]
  simp only [Draft.keyText_segment]
  constructor
  · rintro ⟨element, entity, _, _, keyed, ⟨name, property, _, rfl, written, rfl⟩, rfl⟩
    cases written
    exact ⟨element, entity, name, property, keyed, rfl⟩
  · rintro ⟨element, entity, name, property, keyed, rfl⟩
    exact ⟨element, entity, _, _, keyed, ⟨name, property, _, rfl, rfl, rfl⟩, rfl⟩

/-- While addresses are encoded, a text as a key of its own adds one segment, which holds no slash
and decodes to this text; it is accepted where entities with one key property are selected. The
segment is empty or dots exactly if the text is. Below any other segments, normalising leaves the
new path as it is exactly if it leaves the old one so and the text is not dots. -/
theorem text_segment_settled (encoding : mapping.options.urlEncode = true)
    (accepted : (mapping.map root ⟨before⟩).outcome = .ok target) (text : String) :
    ((∃ target', mapping.withText root before text = .ok target') ↔
      ∃ element entity name property,
        mapping.schema.Keyed target.type element entity [(name, property)]) ∧
    ∀ target', mapping.withText root before text = .ok target' → ∃ segment,
      target'.address.path = target.address.path ++ "/" ++ segment ∧
      '/' ∉ segment.toList ∧ Text.decodeComponent? segment = some text ∧
      (segment = "" ↔ text = "") ∧ (Text.IsDots segment ↔ Text.IsDots text) ∧
      Text.segments target'.address.path = Text.segments target.address.path ++ [segment] ∧
      ∀ above, Text.Settled (above ++ Text.segments target'.address.path) ↔
        Text.Settled (above ++ Text.segments target.address.path) ∧ ¬Text.IsDots text := by
  simp only [withText_eq_ok accepted]
  refine ⟨?_, ?_⟩
  · constructor
    · rintro ⟨_, element, entity, name, property, keyed, _⟩
      exact ⟨element, entity, name, property, keyed⟩
    · rintro ⟨element, entity, name, property, keyed⟩
      exact ⟨_, element, entity, name, property, keyed, rfl⟩
  · rintro target' ⟨element, entity, name, property, keyed, added⟩
    have own : Draft.encoded mapping text = Text.encodeComponent text := if_pos encoding
    rw [own] at added
    have path : target'.address.path = target.address.path ++ "/" ++ Text.encodeComponent text :=
      congrArg (·.address.path) added
    have single : '/' ∉ (Text.encodeComponent text).toList :=
      Text.not_mem_encodeComponent (by decide) (by decide) text
    have parted := path ▸ Text.segments_append target.address.path single
    refine ⟨Text.encodeComponent text, path, single, Text.decodeComponent?_encodeComponent text,
      Text.encodeComponent_eq_iff (by decide), Text.isDots_encodeComponent, parted, ?_⟩
    intro above
    rw [parted, ← List.append_assoc, Text.settled_iff, Text.settled_iff, List.forall_mem_append,
      List.forall_mem_singleton, Text.isDots_encodeComponent]

end Mapping

namespace Archive

def encoding : Mapping where
  schema := schema

def byLabel (label : String) : Except Error Target :=
  encoding.withText "http://svc" [.entitySet boxes] label

def all : Target := (Draft.ofSet boxes).addressed "http://svc" boxes.pathType []

def one (segment : String) : Target := all.keyed box (.apart segment)

theorem map_boxes : (encoding.map "http://svc" ⟨[.entitySet boxes]⟩).outcome = .ok all :=
  Mapping.map_ofSet encoding "http://svc" boxes

theorem byLabel_slash : byLabel "a/b" = .ok (one "a%2Fb") := by with_unfolding_all rfl

theorem byLabel_dots : byLabel ".." = .ok (one "..") := by with_unfolding_all rfl

end Archive

theorem Mapping.text_segment_settled_slash :
    Archive.encoding.options.urlEncode = true ∧
      (Archive.encoding.map "http://svc" ⟨[.entitySet Archive.boxes]⟩).outcome =
        .ok Archive.all ∧
      (∃ segment, (Archive.one "a%2Fb").address.path = "Boxes" ++ "/" ++ segment ∧
        Text.decodeComponent? segment = some "a/b") ∧
      Text.Settled (Text.segments (Archive.one "a%2Fb").address.path) := by
  have encoded : Archive.encoding.options.urlEncode = true := rfl
  have before : Text.Settled (Text.segments Archive.all.address.path) := by decide
  have keyed := text_segment_settled encoded Archive.map_boxes "a/b"
  rcases keyed.2 _ Archive.byLabel_slash with ⟨segment, path, _, decoded, _, _, _, settled⟩
  exact ⟨rfl, Archive.map_boxes, ⟨segment, path, decoded⟩, (settled []).mpr ⟨before, by decide⟩⟩

/-- A box labelled with two dots is looked for above the boxes. -/
theorem Mapping.dots_as_label :
    Text.normalised (Text.segments (Archive.one "..").address.path) = [""] ∧
      ¬∀ (mapping : Mapping) root before target text target', mapping.options.urlEncode = true →
        (mapping.map root ⟨before⟩).outcome = .ok target →
        mapping.withText root before text = .ok target' →
        ∃ segment, target'.address.path = target.address.path ++ "/" ++ segment ∧
          '/' ∉ segment.toList ∧ Text.decodeComponent? segment = some text ∧
          segment ≠ "" ∧ ¬Text.IsDots segment := by
  refine ⟨by decide, ?_⟩
  intro safe
  have keyed := safe Archive.encoding "http://svc" [.entitySet Archive.boxes] Archive.all ".." _ rfl
    Archive.map_boxes Archive.byLabel_dots
  rcases keyed with ⟨segment, path, _, _, _, plain⟩
  have same : ".." = segment := (String.append_right_inj "Boxes/").mp path
  exact plain (same ▸ .inr rfl)

end ODataRequest
