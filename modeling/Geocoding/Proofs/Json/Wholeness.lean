import Geocoding.Proofs.Json.Arrangement
import Geocoding.Proofs.Json.Recognition

/-!
# Texts that are read as a whole

A reader stops at the first trouble that it meets, and it uses some parts of a text and passes
over others.  Whatever it can use it could have passed over.  So a text that is read to a value
holds one tree from its beginning to its end, with nothing but space around it, and neither what
is cut off from such a text nor what is added to it goes unnoticed.
-/

namespace Geocoding.Json

open Text (Symbol)

/-! ## Strings that are used -/

theorem exists_skipString {text symbols : List Symbol} (read : readSymbols text = .ok symbols) :
    ∃ after, skipString text = .ok after := by
  fun_induction readSymbols text generalizing symbols with
  | case1 => cases read
  | case2 rest => exact ⟨rest, by rw [skipString]⟩
  | case3 rest character middle escape ih =>
    obtain ⟨others, behind, _⟩ := Reading.map_eq_ok.mp read
    obtain ⟨after, skipped⟩ := ih behind
    exact ⟨after, (skipString_of_readEscape escape).trans skipped⟩
  | case4 => cases read
  | case5 => cases read
  | case6 symbol rest notQuote notBackslash allowed ih =>
    obtain ⟨others, behind, _⟩ := Reading.map_eq_ok.mp read
    obtain ⟨after, skipped⟩ := ih behind
    refine ⟨after, ?_⟩
    rw [skipString]
    · rw [if_neg allowed]
      exact skipped
    · exact notQuote
    · exact notBackslash

/-! ## Trees in which all that can be used can be passed over -/

mutual

def Node.Coherent : Node → Prop
  | .number used skipped => ∀ value, used = .ok value → skipped = .ok ()
  | .string used skipped => ∀ value, used = .ok value → skipped = .ok ()
  | .array items => items.Coherent
  | .object members => members.Coherent
  | .null | .boolean _ | .broken _ | .absent => True

def Items.Coherent : Items → Prop
  | .close | .cut _ => True
  | .next item rest => item.Coherent ∧ rest.Coherent

def Members.Coherent : Members → Prop
  | .close | .cut _ => True
  | .next name value rest => name.Coherent ∧ value.Coherent ∧ rest.Coherent

end

section Trees

variable {text after : List Symbol}

theorem coherent_numberNode (negative : Bool) (text : List Symbol) :
    (numberNode negative text).1.Coherent := by
  unfold numberNode
  split
  · exact fun _ _ => rfl
  · exact nofun

theorem coherent_stringNode (text : List Symbol) : (stringNode text).1.Coherent := by
  unfold stringNode
  split
  · exact fun _ _ => rfl
  · next fault missed =>
    intro value read
    rw [readString] at read
    obtain ⟨symbols, found, _⟩ := Reading.bind_eq_ok.mp read
    obtain ⟨rest, skipped⟩ := exists_skipString found
    cases skipped.symm.trans missed

theorem coherent_wordNode {node : Node} (coherent : node.Coherent) (word : List Char)
    (text : List Symbol) : (wordNode node word text).1.Coherent := by
  unfold wordNode
  split
  · exact coherent
  · trivial

theorem coherent_leafNode (symbol : Symbol) (text : List Symbol) :
    (leafNode symbol text).1.Coherent := by
  unfold leafNode
  split
  · exact coherent_wordNode (by trivial) _ text
  · exact coherent_wordNode (by trivial) _ text
  · exact coherent_wordNode (by trivial) _ text
  · exact coherent_stringNode text
  · exact coherent_numberNode true text
  · trivial

theorem nodeFrom_begins {node : Node} (read : nodeFrom text = (node, after)) :
    (∃ others items, node = .array items ∧ firstItemFrom others = (items, after)) ∨
    (∃ others members, node = .object members ∧ firstMemberFrom others = (members, after)) ∨
    node.Coherent := by
  rw [nodeFrom_eq] at read
  split at read
  · cases read
    exact .inr (.inr trivial)
  · next others _ =>
    cases read
    exact .inl ⟨others, _, rfl, rfl⟩
  · next others _ =>
    cases read
    exact .inr (.inl ⟨others, _, rfl, rfl⟩)
  · right
    right
    split at read
    · cases read
      exact coherent_numberNode false _
    · cases read
      exact coherent_leafNode _ _

theorem memberFrom_begins {name value : Node} {members : Members}
    (read : memberFrom text = (.next name value members, after)) :
    ∃ afterName afterValue, nodeFrom text = (name, afterName) ∧
      ((∃ others, nodeFrom others = (value, afterValue)) ∨ value.Coherent) ∧
      membersFrom afterValue = (members, after) := by
  have valued : (∃ others, nodeFrom others = memberValueFrom (nodeFrom text).2) ∨
      (memberValueFrom (nodeFrom text).2).1.Coherent := by
    rw [memberValueFrom_eq]
    split
    · exact .inr trivial
    · next others _ => exact .inl ⟨others, rfl⟩
    · exact .inr trivial
  rw [memberFrom_eq] at read
  cases read
  exact ⟨_, _, rfl, valued, rfl⟩

mutual

theorem coherent_of_nodeFrom : (node : Node) → {text after : List Symbol} →
    nodeFrom text = (node, after) → node.Coherent
  | .array items, _, _, read => by
    obtain ⟨_, _, same, first⟩ | ⟨_, _, same, _⟩ | coherent := nodeFrom_begins read
    · cases same
      exact coherent_of_firstItemFrom items first
    · cases same
    · exact coherent
  | .object members, _, _, read => by
    obtain ⟨_, _, same, _⟩ | ⟨_, _, same, first⟩ | coherent := nodeFrom_begins read
    · cases same
    · cases same
      exact coherent_of_firstMemberFrom members first
    · exact coherent
  | .null, _, _, _ | .boolean _, _, _, _ | .broken _, _, _, _ | .absent, _, _, _ => trivial
  | .number _ _, _, _, read | .string _ _, _, _, read => by
    obtain ⟨_, _, same, _⟩ | ⟨_, _, same, _⟩ | coherent := nodeFrom_begins read
    · cases same
    · cases same
    · exact coherent

theorem coherent_of_firstItemFrom : (items : Items) → {text after : List Symbol} →
    firstItemFrom text = (items, after) → items.Coherent
  | .close, _, _, _ | .cut _, _, _, _ => trivial
  | .next item items, _, _, read => by
    obtain ⟨_, first, others⟩ := firstItemFrom_eq_next read
    exact ⟨coherent_of_nodeFrom item first, coherent_of_itemsFrom items others⟩

theorem coherent_of_itemsFrom : (items : Items) → {text after : List Symbol} →
    itemsFrom text = (items, after) → items.Coherent
  | .close, _, _, _ | .cut _, _, _, _ => trivial
  | .next item items, _, _, read => by
    obtain ⟨_, _, _, first, others⟩ := itemsFrom_eq_next read
    exact ⟨coherent_of_nodeFrom item first, coherent_of_itemsFrom items others⟩

theorem coherent_of_firstMemberFrom : (members : Members) → {text after : List Symbol} →
    firstMemberFrom text = (members, after) → members.Coherent
  | .close, _, _, _ | .cut _, _, _, _ => trivial
  | .next name value members, _, _, read => by
    obtain ⟨_, _, named, valued, others⟩ := memberFrom_begins (firstMemberFrom_eq_next read)
    refine ⟨coherent_of_nodeFrom name named, ?_, coherent_of_membersFrom members others⟩
    obtain ⟨_, found⟩ | coherent := valued
    · exact coherent_of_nodeFrom value found
    · exact coherent

theorem coherent_of_membersFrom : (members : Members) → {text after : List Symbol} →
    membersFrom text = (members, after) → members.Coherent
  | .close, _, _, _ | .cut _, _, _, _ => trivial
  | .next name value members, _, _, read => by
    obtain ⟨_, _, found⟩ := membersFrom_eq_next read
    obtain ⟨_, _, named, valued, others⟩ := memberFrom_begins found
    refine ⟨coherent_of_nodeFrom name named, ?_, coherent_of_membersFrom members others⟩
    obtain ⟨_, found⟩ | coherent := valued
    · exact coherent_of_nodeFrom value found
    · exact coherent

end

end Trees

/-! ## What is read can be passed over -/

section Reading

variable {depth : Nat}

theorem Node.refuse_ne_ok {Result : Type} (node : Node) (expected : Expected) (result : Result) :
    node.refuse expected ≠ .ok result := by
  cases node with
  | number used _ => cases used <;> nofun
  | string used _ => cases used <;> nofun
  | _ => nofun

theorem Node.Coherent.skip_number {used : Except Fault Number} {skipped : Except Fault Unit}
    (coherent : (Node.number used skipped).Coherent) {value : Number} (known : used = .ok value) :
    (Node.number used skipped).skip = .ok () :=
  Reading.ofFault_eq_ok.mpr (coherent value known)

theorem Node.Coherent.skip_string {used : Except Fault String} {skipped : Except Fault Unit}
    (coherent : (Node.string used skipped).Coherent) {value : String} (known : used = .ok value) :
    (Node.string used skipped).skip = .ok () :=
  Reading.ofFault_eq_ok.mpr (coherent value known)

namespace Leaf

theorem skip_of_readDouble {node : Node} (coherent : node.Coherent) {value : Float}
    (read : readDouble node = .ok value) : node.skip = .ok () := by
  unfold readDouble at read
  split at read
  · exact coherent.skip_number rfl
  · exact (node.refuse_ne_ok _ _ read).elim

theorem skip_of_readPair {node : Node} (coherent : node.Coherent) {value : Float × Float}
    (read : readPair node = .ok value) : node.skip = .ok () := by
  unfold readPair at read
  split at read
  · split at read
    · cases read
    · cases read
    · obtain ⟨coherentFirst, behind⟩ := coherent
      obtain ⟨_, first, read⟩ := Reading.bind_eq_ok.mp read
      split at read
      · cases read
      · cases read
      · obtain ⟨coherentSecond, _⟩ := behind
        obtain ⟨_, second, read⟩ := Reading.bind_eq_ok.mp read
        split at read
        · rw [Node.skip, Items.skip, skip_of_readDouble coherentFirst first, Items.skip,
            skip_of_readDouble coherentSecond second]
          rfl
        · cases read
        · cases read
  · exact (node.refuse_ne_ok _ _ read).elim

theorem skip_of_readCoordinate {node : Node} (coherent : node.Coherent) {value : Float}
    (read : readCoordinate depth node = .ok value) : node.skip = .ok () := by
  obtain ⟨_, _, read⟩ := Reading.bind_eq_ok.mp read
  split at read
  · exact coherent.skip_number rfl
  · exact coherent.skip_string rfl
  · cases read

theorem readPlaceKind_object {name content : Node} {rest : Members} {kind : PlaceKind}
    (read : readPlaceKind (.object (.next name content rest)) = .ok kind) :
    (∃ text skipped, name = .string (.ok text) skipped) ∧ content = .null ∧ rest = .close := by
  cases name with
  | string used skipped =>
    obtain ⟨text, named, read⟩ := Reading.bind_eq_ok.mp read
    obtain ⟨_, _, read⟩ := Reading.bind_eq_ok.mp read
    refine ⟨⟨text, skipped, by rw [Reading.ofFault_eq_ok.mp named]⟩, ?_⟩
    cases content with
    | null =>
      cases rest with
      | close => exact ⟨rfl, rfl⟩
      | cut _ | next _ _ _ => cases read
    | _ =>
      obtain ⟨_, refused, _⟩ := Reading.bind_eq_ok.mp read
      exact (Node.refuse_ne_ok _ _ _ refused).elim
  | _ => cases read

theorem skip_of_readPlaceKind {node : Node} (coherent : node.Coherent) {value : PlaceKind}
    (read : readPlaceKind node = .ok value) : node.skip = .ok () := by
  cases node with
  | string used skipped =>
    obtain ⟨_, named, _⟩ := Reading.bind_eq_ok.mp read
    exact coherent.skip_string (Reading.ofFault_eq_ok.mp named)
  | object members =>
    cases members with
    | close | cut _ => cases read
    | next name content rest =>
      obtain ⟨⟨text, skipped, rfl⟩, rfl, rfl⟩ := readPlaceKind_object read
      rw [Node.skip, Members.skip]
      dsimp only
      rw [coherent.1 text rfl]
      rfl
  | _ => cases read

theorem skip_of_read {leaf : Leaf} {node : Node} (coherent : node.Coherent)
    {value : leaf.Carrier} (read : leaf.read depth node = .ok value) : node.skip = .ok () := by
  cases leaf with
  | string =>
    change readText node = .ok value at read
    unfold readText at read
    split at read
    · exact coherent.skip_string (Reading.ofFault_eq_ok.mp read)
    · exact (node.refuse_ne_ok _ _ read).elim
  | count =>
    change readCount node = .ok value at read
    unfold readCount at read
    split at read
    · exact coherent.skip_number rfl
    · cases read
    · exact (node.refuse_ne_ok _ _ read).elim
  | double => exact skip_of_readDouble coherent read
  | single =>
    change readSingle node = .ok value at read
    unfold readSingle at read
    split at read
    · exact coherent.skip_number rfl
    · exact (node.refuse_ne_ok _ _ read).elim
  | pair => exact skip_of_readPair coherent read
  | coordinate => exact skip_of_readCoordinate coherent read
  | placeKind => exact skip_of_readPlaceKind coherent read

end Leaf

theorem Items.skip_of_readEach {Result : Type} {read : Node → Reading Result}
    (passed : ∀ node value, node.Coherent → read node = .ok value → node.skip = .ok ()) :
    (items : Items) → items.Coherent → {values : List Result} →
      items.readEach read = .ok values → items.skip = .ok ()
  | .close, _, _, _ => rfl
  | .next item rest, ⟨coherent, others⟩, _, found => by
    obtain ⟨value, first, found⟩ := Reading.bind_eq_ok.mp found
    obtain ⟨_, behind, _⟩ := Reading.bind_eq_ok.mp found
    rw [skip, passed item value coherent first]
    exact skip_of_readEach passed rest others behind

theorem Members.skip_of_readEach {Slots : Type}
    {store : String → Node → Slots → Option (Reading Slots)}
    (passed : ∀ key node slots stored, node.Coherent → store key node slots = some (.ok stored) →
      node.skip = .ok ()) :
    (members : Members) → members.Coherent → {slots filled : Slots} →
      members.readEach store slots = .ok filled → members.skip = .ok ()
  | .close, _, _, _, _ => rfl
  | .next name value rest, ⟨coherentName, coherent, others⟩, slots, _, found => by
    obtain ⟨key, closed, rfl⟩ := readEach_next_ok found
    rw [readEach_next] at found
    rw [skip, coherentName key rfl]
    split at found
    · next stored known =>
      obtain ⟨next, filled, found⟩ := Reading.bind_eq_ok.mp found
      have skipped := passed key value slots next coherent (by rw [known, filled])
      rw [skipped]
      exact skip_of_readEach passed rest others found
    · obtain ⟨_, skipped, found⟩ := Reading.bind_eq_ok.mp found
      rw [skipped]
      exact skip_of_readEach passed rest others found

theorem Shape.exists_of_read_list {item : Shape} {node : Node} {values : List item.Carrier}
    (read : (Shape.list item).read depth node = .ok values) : ∃ items, node = .array items := by
  by_contra other
  have refused : (Shape.list item).read depth node = node.refuse .sequence := by
    cases node with
    | array items => exact (other ⟨items, rfl⟩).elim
    | _ => rfl
  exact node.refuse_ne_ok _ _ (refused.symm.trans read)

theorem Shape.exists_of_read_record {name : String} {fields : Fields} {node : Node}
    {values : fields.Carrier} (read : (Shape.record name fields).read depth node = .ok values) :
    (∃ items, node = .array items) ∨ ∃ members, node = .object members := by
  by_contra other
  have refused : (Shape.record name fields).read depth node = node.refuse (.record name) := by
    cases node with
    | array items => exact (other (.inl ⟨items, rfl⟩)).elim
    | object members => exact (other (.inr ⟨members, rfl⟩)).elim
    | _ => rfl
  exact node.refuse_ne_ok _ _ (refused.symm.trans read)

mutual

/-- Whatever is read to a value can be passed over. -/
theorem Shape.skip_of_read : (shape : Shape) → {depth : Nat} → {node : Node} → node.Coherent →
    {value : shape.Carrier} → shape.read depth node = .ok value → node.skip = .ok ()
  | .leaf leaf, _, _, coherent, _, read => Leaf.skip_of_read coherent read
  | .optional content, _, node, coherent, _, read => by
    by_cases absent : node = .null
    · rw [absent]
      rfl
    · rw [Shape.read_optional absent] at read
      obtain ⟨_, found, _⟩ := Reading.map_eq_ok.mp read
      exact content.skip_of_read coherent found
  | .list item, _, node, coherent, _, read => by
    obtain ⟨items, rfl⟩ := Shape.exists_of_read_list read
    exact items.skip_of_readEach (fun _ _ coherent => item.skip_of_read coherent) coherent read
  | .record name fields, _, node, coherent, _, read => by
    obtain ⟨items, rfl⟩ | ⟨members, rfl⟩ := Shape.exists_of_read_record read
    · exact fields.skip_of_readItems coherent read
    · obtain ⟨_, filled, _⟩ := Reading.bind_eq_ok.mp read
      exact members.skip_of_readEach (fun _ _ _ _ => fields.skip_of_store) coherent filled

theorem Fields.skip_of_readItems : (fields : Fields) → {record : String} →
    {size depth index : Nat} → {items : Items} → items.Coherent → {values : fields.Carrier} →
    fields.readItems record size depth index items = .ok values → items.skip = .ok ()
  | .nil, _, _, _, _, items, _, _, read => by
    cases items with
    | close => rfl
    | cut fault => cases read
    | next item rest => cases read
  | .cons name droppable shape rest, _, _, _, _, items, coherent, _, read => by
    cases items with
    | close => rfl
    | cut fault => cases read
    | next item more =>
      obtain ⟨_, first, read⟩ := Reading.bind_eq_ok.mp read
      obtain ⟨_, behind, _⟩ := Reading.bind_eq_ok.mp read
      obtain ⟨coherentItem, others⟩ := coherent
      rw [Items.skip, shape.skip_of_read coherentItem first]
      exact rest.skip_of_readItems others behind

theorem Fields.skip_of_store : (fields : Fields) → {depth : Nat} → {key : String} →
    {node : Node} → {slots stored : fields.Slots} → node.Coherent →
    fields.store depth key node slots = some (.ok stored) → node.skip = .ok ()
  | .nil, _, _, _, _, _, _, found => by cases found
  | .cons name droppable shape rest, _, key, node, (slot, slots), _, coherent, found => by
    by_cases same : key = name
    · have filled := Option.some.inj ((if_pos same).symm.trans found)
      cases slot with
      | some _ => cases filled
      | none =>
        obtain ⟨_, read, _⟩ := Reading.bind_eq_ok.mp filled
        exact shape.skip_of_read coherent read
    · rw [Fields.store_cons_of_ne same] at found
      obtain ⟨outcome, known, filled⟩ := Option.map_eq_some_iff.mp found
      obtain ⟨_, rfl, _⟩ := Reading.map_eq_ok.mp filled
      exact rest.skip_of_store coherent known

end

end Reading

/-! ## Whole texts -/

theorem Document.read_eq (text : List Symbol) :
    Document.read text = ⟨(nodeFrom text).1, (skipSpace (nodeFrom text).2).isEmpty⟩ :=
  rfl

/-- A text is read to a value just if it holds one tree, which is read to this value. -/
theorem Shape.readText_eq_ok_iff {shape : Shape} {text : List Symbol} {value : shape.Carrier} :
    shape.readText text = .ok value ↔
      ∃ node, text ∈ node.documents ∧ shape.read 0 node = .ok value := by
  constructor
  · intro read
    obtain ⟨found, content, ended⟩ := Reading.bind_eq_ok.mp read
    have complete : (Document.read text).complete = true := by
      by_contra cut
      rw [if_neg cut] at ended
      cases ended
    rw [if_pos complete] at ended
    cases ended
    have coherent : (Document.read text).root.Coherent :=
      coherent_of_nodeFrom _ (rfl : nodeFrom text = (_, _))
    refine ⟨_, mem_documents_iff.mpr ⟨?_, shape.skip_of_read coherent content⟩, content⟩
    rw [← complete]
  · rintro ⟨node, written, read⟩
    exact (readText_iff written value).mpr read

theorem Shape.readText_bind_eq_ok_iff {Result : Type} {shape : Shape} {text : List Symbol}
    {convert : shape.Carrier → Result} {result : Result} :
    (shape.readText text >>= fun value => pure (convert value)) = .ok result ↔
      ∃ node value, text ∈ node.documents ∧ shape.read 0 node = .ok value ∧
        convert value = result := by
  rw [Reading.bind_eq_ok]
  constructor
  · rintro ⟨value, found, made⟩
    obtain ⟨node, written, read⟩ := readText_eq_ok_iff.mp found
    exact ⟨node, value, written, read, Except.ok.inj made⟩
  · rintro ⟨node, value, written, read, made⟩
    exact ⟨value, readText_eq_ok_iff.mpr ⟨node, written, read⟩, congrArg _ made⟩

/-- The texts of a tree other than a number are told from their beginning: what stands behind
the tree makes no difference. -/
theorem Document.read_append {node : Node} (closed : node.isNumber = false) {text : List Symbol}
    (written : text ∈ node.documents) (more : List Symbol) :
    Document.read (text ++ more) = ⟨node, (skipSpace more).isEmpty⟩ := by
  obtain ⟨_, ⟨before, beforeBlanks, inner, spelled, rfl⟩, after, afterBlanks, rfl⟩ := written
  have found : nodeFrom (before ++ inner ++ after ++ more) = (node, after ++ more) := by
    rw [List.append_assoc, List.append_assoc, nodeFrom_blank beforeBlanks]
    refine nodeFrom_append node spelled fun number => ?_
    rw [closed] at number
    cases number
  rw [Document.read_eq, found, skipSpace_blank afterBlanks]

/-- A text that is read as a record says all that it says before anything is added to it, and
nothing but space can be added. -/
theorem Shape.readText_append {name : String} {fields : Fields} {text more : List Symbol}
    {value other : fields.Carrier}
    (read : (Shape.record name fields).readText text = .ok value)
    (alsoRead : (Shape.record name fields).readText (text ++ more) = .ok other) :
    more ∈ blank ∧ value = other := by
  obtain ⟨node, written, found⟩ := readText_eq_ok_iff.mp read
  obtain ⟨whole, wholeWritten, alsoFound⟩ := readText_eq_ok_iff.mp alsoRead
  have closed : node.isNumber = false := by
    obtain ⟨items, rfl⟩ | ⟨members, rfl⟩ := exists_of_read_record found <;> rfl
  have document := Document.read_append closed written more
  rw [(mem_documents_iff.mp wholeWritten).1, Document.mk.injEq] at document
  obtain ⟨rfl, ended⟩ := document
  refine ⟨List.dropWhile_eq_nil_iff.mp (List.isEmpty_iff.mp ended.symm), ?_⟩
  exact Except.ok.inj (found.symm.trans alsoFound)

end Geocoding.Json
