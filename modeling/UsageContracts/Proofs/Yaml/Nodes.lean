import UsageContracts.Proofs.Outcome
import UsageContracts.Proofs.Yaml.Flow

/-!
# The nodes of values between brackets

The table of a value that is written between brackets is built from its tokens.
-/

namespace UsageContracts.Yaml

namespace NodeReader

/-- A reader after some tokens from which some nodes were built. -/
def advance (reader : NodeReader) (rest : List Token) (nodes : List Node) : NodeReader :=
  { reader with tokens := rest, nodes := reader.nodes ++ nodes.toArray }

variable {reader : NodeReader} {fuel : Nat} {place : NodePlace} {rest : List Token}

@[simp]
theorem advance_size (nodes : List Node) :
    (reader.advance rest nodes).nodes.size = reader.nodes.size + nodes.length := by
  simp [advance]

@[simp]
theorem advance_tokens (nodes : List Node) : (reader.advance rest nodes).tokens = rest :=
  rfl

@[simp]
theorem advance_advance (middle : List Token) (first second : List Node) :
    (reader.advance middle first).advance rest second = reader.advance rest (first ++ second) := by
  simp [advance, Array.append_assoc]

/-- Filling in a collection that was added before its parts. -/
theorem define_advance (middle : List Token) (blank node : Node) (parts : List Node) :
    (((reader.goOn middle).add none blank).2.advance rest parts).define reader.nodes.size node =
      reader.advance rest (node :: parts) := by
  have nodes_eq :
      ((reader.nodes.push blank ++ parts.toArray).setIfInBounds reader.nodes.size node) =
        reader.nodes ++ (node :: parts).toArray := by
    apply Array.toList_inj.mp
    simp
  simp only [define, advance, add, goOn, nodes_eq]

/-- Whether a token is the first one of a value. -/
inductive BeginsNode : Token → Prop
  | scalar {content : Text} {isPlain : Bool} : BeginsNode (.scalar content isPlain)
  | openList : BeginsNode .openList
  | openMap : BeginsNode .openMap

/-- Nothing stands before the content of a node that begins with its content. -/
theorem readNode_eq_readContent {token : Token} (begins : BeginsNode token)
    (tokens_eq : reader.tokens = token :: rest) :
    readNode (fuel + 1) place reader = readContent fuel place {} reader := by
  rcases reader with ⟨handles, tokens, nodes, anchors⟩
  subst tokens_eq
  cases begins <;> rfl

/-! ## Lists and maps -/

theorem readContent_scalar {content : Text} {isPlain : Bool}
    (tokens_eq : reader.tokens = .scalar content isPlain :: rest) :
    readContent (fuel + 1) place {} reader =
      .ok (reader.nodes.size,
        reader.advance rest [.scalar (Flow.scalarTag content isPlain) content]) := by
  unfold readContent
  simp [tokens_eq, goOn, add, advance, Flow.scalarTag]

theorem readContent_openList {middle : List Token} {ids : List NodeId} {parts : List Node}
    (tokens_eq : reader.tokens = .openList :: middle)
    (items_eq : readBracketItems fuel true ((reader.goOn middle).add none (.list .list [])).2 =
      .ok (ids, ((reader.goOn middle).add none (.list .list [])).2.advance rest parts)) :
    readContent (fuel + 1) place {} reader =
      .ok (reader.nodes.size, reader.advance rest (.list .list ids :: parts)) := by
  unfold readContent
  simp only [tokens_eq, NodeProperties.collectionTag, items_eq, Outcome.ok_bind]
  exact congrArg (fun reader => Except.ok (_, reader)) (define_advance middle _ _ parts)

theorem readContent_openMap {middle : List Token} {ids : List (NodeId × NodeId)}
    {parts : List Node} (tokens_eq : reader.tokens = .openMap :: middle)
    (entries_eq : readBracketEntries fuel true ((reader.goOn middle).add none (.map .map [])).2 =
      .ok (ids, ((reader.goOn middle).add none (.map .map [])).2.advance rest parts)) :
    readContent (fuel + 1) place {} reader =
      .ok (reader.nodes.size, reader.advance rest (.map .map ids :: parts)) := by
  unfold readContent
  simp only [tokens_eq, NodeProperties.collectionTag, entries_eq, Outcome.ok_bind]
  exact congrArg (fun reader => Except.ok (_, reader)) (define_advance middle _ _ parts)

theorem readBracketItems_close (isFirst : Bool) (tokens_eq : reader.tokens = .closeList :: rest) :
    readBracketItems (fuel + 1) isFirst reader = .ok ([], reader.advance rest []) := by
  rw [readBracketItems]
  simp [tokens_eq, advance, goOn]

theorem readBracketEntries_close (isFirst : Bool)
    (tokens_eq : reader.tokens = .closeMap :: rest) :
    readBracketEntries (fuel + 1) isFirst reader = .ok ([], reader.advance rest []) := by
  rw [readBracketEntries]
  simp [tokens_eq, advance, goOn]

/-- After a comma items are read as at the beginning. -/
theorem readBracketItems_comma (tokens_eq : reader.tokens = .comma :: rest) :
    readBracketItems (fuel + 1) false reader =
      readBracketItems (fuel + 1) true (reader.goOn rest) := by
  rw [readBracketItems, readBracketItems]
  cases rest with
  | nil => simp [tokens_eq, goOn]
  | cons token rest => cases token <;> simp [tokens_eq, goOn]

/-- After a comma entries are read as at the beginning. -/
theorem readBracketEntries_comma (tokens_eq : reader.tokens = .comma :: rest) :
    readBracketEntries (fuel + 1) false reader =
      readBracketEntries (fuel + 1) true (reader.goOn rest) := by
  rw [readBracketEntries, readBracketEntries]
  cases rest with
  | nil => simp [tokens_eq, goOn]
  | cons token rest => cases token <;> simp [tokens_eq, goOn]

theorem readBracketItems_item {token : Token} (begins : BeginsNode token)
    (tokens_eq : reader.tokens = token :: rest) {id : NodeId} {next last : NodeReader}
    {ids : List NodeId} (item_eq : readNode fuel .inBrackets reader = .ok (id, next))
    (items_eq : readBracketItems fuel false next = .ok (ids, last)) :
    readBracketItems (fuel + 1) true reader = .ok (id :: ids, last) := by
  rw [readBracketItems]
  cases begins <;> simp [tokens_eq, item_eq, items_eq]

theorem readBracketEntries_member {name : Text} {token : Token} {middle : List Token}
    (begins : BeginsNode token) (rest_eq : rest = token :: middle)
    (tokens_eq : reader.tokens = .key :: .scalar name false :: .value :: rest)
    {id : NodeId} {next last : NodeReader} {ids : List (NodeId × NodeId)}
    (value_eq : readNode (fuel + 1) .inBrackets (reader.advance rest [.scalar .text name]) =
      .ok (id, next))
    (entries_eq : readBracketEntries (fuel + 2) false next = .ok (ids, last)) :
    readBracketEntries (fuel + 3) true reader = .ok ((reader.nodes.size, id) :: ids, last) := by
  let named := reader.advance (.value :: rest) [.scalar .text name]
  let opened := reader.goOn (.scalar name false :: .value :: rest)
  have tokens_named : opened.tokens = .scalar name false :: .value :: rest := rfl
  have key_eq : readNode (fuel + 2) .inBrackets opened = .ok (reader.nodes.size, named) := by
    rw [readNode_eq_readContent .scalar tokens_named]
    exact readContent_scalar tokens_named
  have notAtEnd : (named.goOn rest).isAt [.comma, .closeMap] = false := by
    rw [isAt, goOn, rest_eq]
    cases begins <;> rfl
  have readValue_eq : readValue (fuel + 2) .inBrackets [.comma, .closeMap] named =
      .ok (id, next) := by
    unfold readValue
    simp only [named, advance_tokens]
    rw [if_neg (by simpa [named] using notAtEnd)]
    exact value_eq
  unfold readBracketEntries
  have notNull : opened.isAt [.value, .comma, .closeMap] = false := rfl
  simp only [opened] at notNull key_eq
  simp [tokens_eq, notNull, key_eq, readValue_eq, entries_eq]

/-! ## Values -/

theorem exists_tokens_eq_cons : ∀ flow : Flow,
    ∃ token rest, flow.tokens = token :: rest ∧ BeginsNode token
  | .scalar _ _ => ⟨_, _, rfl, .scalar⟩
  | .list [] => ⟨_, _, rfl, .openList⟩
  | .list (_ :: _) => ⟨_, _, rfl, .openList⟩
  | .map [] => ⟨_, _, rfl, .openMap⟩
  | .map (_ :: _) => ⟨_, _, rfl, .openMap⟩

/-- Items are read if the first one is, and if the others are after it. -/
theorem readBracketItems_first {item : Flow} {items : List Flow}
    (tokens_eq : reader.tokens = item.tokens ++ (Flow.itemTokens items ++ .closeList :: rest))
    (item_eq : readNode fuel .inBrackets reader = .ok (reader.nodes.size,
      reader.advance (Flow.itemTokens items ++ .closeList :: rest)
        (item.nodesFrom reader.nodes.size)))
    (items_eq : ∀ next : NodeReader, next.tokens = Flow.itemTokens items ++ .closeList :: rest →
      readBracketItems fuel false next = .ok (Flow.itemIds next.nodes.size items,
        next.advance rest (Flow.itemNodes next.nodes.size items))) :
    readBracketItems (fuel + 1) true reader = .ok (Flow.itemIds reader.nodes.size (item :: items),
      reader.advance rest (Flow.itemNodes reader.nodes.size (item :: items))) := by
  rcases exists_tokens_eq_cons item with ⟨token, tail, head_eq, begins⟩
  have begins_eq : reader.tokens =
      token :: (tail ++ (Flow.itemTokens items ++ .closeList :: rest)) := by
    rw [tokens_eq, head_eq, List.cons_append]
  rw [readBracketItems_item begins begins_eq item_eq (items_eq _ (advance_tokens _)),
    advance_size, advance_advance]
  rfl

/-- Entries are read if the value of the first one is, and if the others are
after it. -/
theorem readBracketEntries_first {name : Text} {flow : Flow} {members : List (Text × Flow)}
    (tokens_eq : reader.tokens =
      Flow.tokensOfMember (name, flow) ++ (Flow.memberTokens members ++ .closeMap :: rest))
    (value_eq : ∀ next : NodeReader,
      next.tokens = flow.tokens ++ (Flow.memberTokens members ++ .closeMap :: rest) →
      readNode (fuel + 1) .inBrackets next = .ok (next.nodes.size,
        next.advance (Flow.memberTokens members ++ .closeMap :: rest)
          (flow.nodesFrom next.nodes.size)))
    (members_eq : ∀ next : NodeReader,
      next.tokens = Flow.memberTokens members ++ .closeMap :: rest →
      readBracketEntries (fuel + 2) false next = .ok (Flow.memberIds next.nodes.size members,
        next.advance rest (Flow.memberNodes next.nodes.size members))) :
    readBracketEntries (fuel + 3) true reader =
      .ok (Flow.memberIds reader.nodes.size ((name, flow) :: members),
        reader.advance rest (Flow.memberNodes reader.nodes.size ((name, flow) :: members))) := by
  rcases exists_tokens_eq_cons flow with ⟨token, tail, head_eq, begins⟩
  have value_tokens : flow.tokens ++ (Flow.memberTokens members ++ .closeMap :: rest) =
      token :: (tail ++ (Flow.memberTokens members ++ .closeMap :: rest)) := by
    rw [head_eq, List.cons_append]
  have key_tokens : reader.tokens = .key :: .scalar name false :: .value ::
      (flow.tokens ++ (Flow.memberTokens members ++ .closeMap :: rest)) := by
    rw [tokens_eq]
    rfl
  rw [readBracketEntries_member begins value_tokens key_tokens (value_eq _ (advance_tokens _))
    (members_eq _ (advance_tokens _))]
  simp only [advance_advance, advance_size]
  simp [Flow.memberIds, Flow.memberNodes, Flow.nodesOfMember]

mutual

/-- The nodes of a value are built from its tokens. -/
theorem readNode_tokens : ∀ (flow : Flow) {reader : NodeReader} {fuel : Nat}
    {place : NodePlace} {rest : List Token}, reader.tokens = flow.tokens ++ rest →
      3 * flow.tokens.length ≤ fuel →
      readNode fuel place reader =
        .ok (reader.nodes.size, reader.advance rest (flow.nodesFrom reader.nodes.size))
  | .scalar content isPlain, reader, fuel + 2, place, rest, tokens_eq, _ => by
      have scalar_eq : reader.tokens = .scalar content isPlain :: rest := by
        simpa [Flow.tokens] using tokens_eq
      rw [readNode_eq_readContent .scalar scalar_eq, readContent_scalar scalar_eq]
      rfl
  | .list [], reader, fuel + 3, place, rest, tokens_eq, _ => by
      have list_eq : reader.tokens = .openList :: .closeList :: rest := by
        simpa [Flow.tokens] using tokens_eq
      rw [readNode_eq_readContent .openList list_eq,
        readContent_openList list_eq (readBracketItems_close true rfl)]
      rfl
  | .map [], reader, fuel + 3, place, rest, tokens_eq, _ => by
      have map_eq : reader.tokens = .openMap :: .closeMap :: rest := by
        simpa [Flow.tokens] using tokens_eq
      rw [readNode_eq_readContent .openMap map_eq,
        readContent_openMap map_eq (readBracketEntries_close true rfl)]
      rfl
  | .list (item :: items), reader, fuel + 3, place, rest, tokens_eq, enough => by
      have list_eq : reader.tokens =
          .openList :: (item.tokens ++ (Flow.itemTokens items ++ .closeList :: rest)) := by
        simpa [Flow.tokens] using tokens_eq
      have length_eq : (Flow.list (item :: items)).tokens.length =
          item.tokens.length + (Flow.itemTokens items).length + 2 := by
        simp [Flow.tokens]
        omega
      let opened := ((reader.goOn
        (item.tokens ++ (Flow.itemTokens items ++ .closeList :: rest))).add none (.list .list [])).2
      have items_eq : readBracketItems (fuel + 1) true opened = _ :=
        readBracketItems_first rfl (readNode_tokens item rfl (by omega))
          fun next next_eq => readBracketItems_tokens items next_eq (by omega)
      rw [readNode_eq_readContent .openList list_eq, readContent_openList list_eq items_eq]
      simp [opened, add, goOn, Flow.nodesFrom]
  | .map ((name, flow) :: members), reader, fuel + 3, place, rest, tokens_eq, enough => by
      have map_eq : reader.tokens = .openMap :: (Flow.tokensOfMember (name, flow) ++
          (Flow.memberTokens members ++ .closeMap :: rest)) := by
        simpa [Flow.tokens] using tokens_eq
      have length_eq : (Flow.map ((name, flow) :: members)).tokens.length =
          flow.tokens.length + (Flow.memberTokens members).length + 5 := by
        simp [Flow.tokens, Flow.tokensOfMember]
        omega
      obtain ⟨fuel, rfl⟩ : ∃ less, fuel = less + 2 := ⟨fuel - 2, by omega⟩
      let opened := ((reader.goOn (Flow.tokensOfMember (name, flow) ++
        (Flow.memberTokens members ++ .closeMap :: rest))).add none (.map .map [])).2
      have entries_eq : readBracketEntries (fuel + 3) true opened = _ :=
        readBracketEntries_first rfl (fun next next_eq => readNode_tokens flow next_eq (by omega))
          fun next next_eq => readBracketEntries_tokens members next_eq (by omega)
      rw [readNode_eq_readContent .openMap map_eq, readContent_openMap map_eq entries_eq]
      simp [opened, add, goOn, Flow.nodesFrom]

theorem readBracketItems_tokens : ∀ (items : List Flow)
    {reader : NodeReader} {fuel : Nat} {rest : List Token},
      reader.tokens = Flow.itemTokens items ++ .closeList :: rest →
      3 * (Flow.itemTokens items).length < fuel →
      readBracketItems fuel false reader = .ok (Flow.itemIds reader.nodes.size items,
        reader.advance rest (Flow.itemNodes reader.nodes.size items))
  | [], reader, fuel + 1, rest, tokens_eq, _ => readBracketItems_close false tokens_eq
  | item :: items, reader, fuel + 1, rest, tokens_eq, enough => by
      have length_eq : (Flow.itemTokens (item :: items)).length =
          item.tokens.length + (Flow.itemTokens items).length + 1 := by
        simp [Flow.itemTokens]
      have comma_eq : reader.tokens =
          .comma :: (item.tokens ++ (Flow.itemTokens items ++ .closeList :: rest)) := by
        simpa [Flow.itemTokens] using tokens_eq
      rw [readBracketItems_comma comma_eq]
      exact readBracketItems_first rfl (readNode_tokens item rfl (by omega))
        fun next next_eq => readBracketItems_tokens items next_eq (by omega)

theorem readBracketEntries_tokens : ∀ (members : List (Text × Flow))
    {reader : NodeReader} {fuel : Nat} {rest : List Token},
      reader.tokens = Flow.memberTokens members ++ .closeMap :: rest →
      3 * (Flow.memberTokens members).length < fuel →
      readBracketEntries fuel false reader = .ok (Flow.memberIds reader.nodes.size members,
        reader.advance rest (Flow.memberNodes reader.nodes.size members))
  | [], reader, fuel + 1, rest, tokens_eq, _ => readBracketEntries_close false tokens_eq
  | (name, flow) :: members, reader, fuel + 1, rest, tokens_eq, enough => by
      have length_eq : (Flow.memberTokens ((name, flow) :: members)).length =
          flow.tokens.length + (Flow.memberTokens members).length + 4 := by
        simp [Flow.memberTokens, Flow.tokensOfMember]
      have comma_eq : reader.tokens = .comma :: (Flow.tokensOfMember (name, flow) ++
          (Flow.memberTokens members ++ .closeMap :: rest)) := by
        simpa [Flow.memberTokens] using tokens_eq
      obtain ⟨fuel, rfl⟩ : ∃ less, fuel = less + 2 := ⟨fuel - 2, by omega⟩
      rw [readBracketEntries_comma comma_eq]
      exact readBracketEntries_first rfl
        (fun next next_eq => readNode_tokens flow next_eq (by omega))
        fun next next_eq => readBracketEntries_tokens members next_eq (by omega)

end

end NodeReader

theorem NodeDocument.ofTokens_of_beginsNode {token : Token} (rest : List Token)
    (begins : NodeReader.BeginsNode token) : ofTokens (token :: rest) = (do
      let reader : NodeReader := { handles := defaultHandles, tokens := token :: rest }
      let (root, reader) ← reader.node .inBlock
      checkEnd reader.tokens
      return some { nodes := reader.nodes, root }) := by
  cases begins <;> rfl

/-- The tokens of a value make up the table of its nodes. -/
theorem Flow.ofTokens_eq (flow : Flow) :
    NodeDocument.ofTokens (flow.tokens ++ [.endOfText]) =
      .ok (some { nodes := (flow.nodesFrom 0).toArray, root := 0 }) := by
  let reader : NodeReader :=
    { handles := defaultHandles, tokens := flow.tokens ++ [.endOfText] }
  have node_eq : reader.node .inBlock =
      .ok (0, reader.advance [.endOfText] (flow.nodesFrom 0)) := by
    apply NodeReader.readNode_tokens flow rfl
    simp [reader]
    omega
  rcases NodeReader.exists_tokens_eq_cons flow with ⟨token, rest, tokens_eq, begins⟩
  rw [tokens_eq, List.cons_append, NodeDocument.ofTokens_of_beginsNode _ begins,
    ← List.cons_append, ← tokens_eq]
  simp only [show { handles := defaultHandles, tokens := flow.tokens ++ [.endOfText] } = reader
    from rfl, node_eq]
  simp [NodeReader.advance, checkEnd, reader]

end UsageContracts.Yaml
