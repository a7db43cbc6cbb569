import UsageContracts.Proofs.Document.Writable
import UsageContracts.Proofs.Outcome
import UsageContracts.Proofs.Yaml.Values

/-!
# Texts without impossible scalars

A text without tags, all of whose plain scalars are possible by their form, is
either read or not well formed.  None of its integers has too many digits, so
everything in it can be written.
-/

namespace UsageContracts.Yaml

/-! ## Orderly outcomes -/

/-- Whether an outcome is a value with the given property or a fault of form. -/
def IsOrderly {α : Type} (good : α → Prop) : Except Fault α → Prop
  | .ok value => good value
  | .error fault => fault = .form

instance {α : Type} {good : α → Prop} [DecidablePred good] (outcome : Except Fault α) :
    Decidable (IsOrderly good outcome) :=
  match outcome with
  | .ok value => inferInstanceAs (Decidable (good value))
  | .error fault => inferInstanceAs (Decidable (fault = .form))

namespace IsOrderly

variable {α β σ : Type} {good : α → Prop} {better : β → Prop}

theorem eq_form {outcome : Except Fault α} {fault : Fault} (orderly : IsOrderly good outcome)
    (failed : outcome = .error fault) : fault = .form := by
  subst failed
  exact orderly

theorem of_eq_ok {outcome : Except Fault α} {value : α} (orderly : IsOrderly good outcome)
    (succeeded : outcome = .ok value) : good value := by
  subst succeeded
  exact orderly

/-- A reader is orderly if its first step is and so is the next one after every
value that the first can give. -/
theorem bind {first : Except Fault α} {next : α → Except Fault β}
    (firstOrderly : IsOrderly good first)
    (nextOrderly : ∀ value, good value → IsOrderly better (next value)) :
    IsOrderly better (first >>= next) := by
  cases first with
  | error fault => exact firstOrderly
  | ok value => exact nextOrderly value firstOrderly

/-- As `bind`, for a first step that is one of two. -/
theorem bind_ite {condition : Prop} [Decidable condition] {first second : Except Fault α}
    {next : α → Except Fault β} (firstOrderly : IsOrderly good first)
    (secondOrderly : IsOrderly good second)
    (nextOrderly : ∀ value, good value → IsOrderly better (next value)) :
    IsOrderly better (if condition then first >>= next else second >>= next) := by
  split
  · exact firstOrderly.bind nextOrderly
  · exact secondOrderly.bind nextOrderly

theorem foldlM {step : σ → α → Except Fault σ} {state : σ} {items : List α} (kept : σ → Prop)
    (start : kept state)
    (each : ∀ state item, item ∈ items → kept state → IsOrderly kept (step state item)) :
    IsOrderly kept (items.foldlM step state) := by
  induction items generalizing state with
  | nil => exact start
  | cons item items ih =>
      rw [List.foldlM_cons]
      refine (each state item (by simp) start).bind fun next kept => ih kept ?_
      exact fun state other member => each state other (by simp [member])

theorem mapM {check : α → Except Fault β} {items : List α}
    (each : ∀ item ∈ items, IsOrderly better (check item)) :
    IsOrderly (fun results => ∀ result ∈ results, better result) (items.mapM check) := by
  induction items with
  | nil => exact fun result member => nomatch member
  | cons item items ih =>
      rw [List.mapM_cons]
      refine (each item (by simp)).bind fun result isBetter => ?_
      refine (ih fun other member => each other (by simp [member])).bind fun results areBetter => ?_
      simpa [IsOrderly] using ⟨isBetter, areBetter⟩

end IsOrderly

/-! ## Proper tokens and nodes -/

/-- Whether a content is possible for a tag, or does not go with it at all. -/
def IsPossible (tag : Tag) (content : Text) : Prop :=
  IsOrderly Scalar.IsWritable (scalarValue tag content)

instance (tag : Tag) (content : Text) : Decidable (IsPossible tag content) :=
  inferInstanceAs (Decidable (IsOrderly Scalar.IsWritable (scalarValue tag content)))

/-- Whether a token asks for nothing impossible.  Quoted scalars are texts, which
are never impossible; tags could turn them into anything. -/
def Token.IsProper : Token → Prop
  | .tag _ => False
  | .scalar content true => IsPossible (.ofText content) content
  | .broken fault => fault = .form
  | _ => True

instance (token : Token) : Decidable token.IsProper :=
  match token with
  | .tag _ => .isFalse id
  | .scalar content true => inferInstanceAs (Decidable (IsPossible (.ofText content) content))
  | .broken fault => inferInstanceAs (Decidable (fault = .form))
  | .directive _ | .startMarker | .endMarker | .beginItems | .beginEntries | .endBlock | .openList
  | .closeList | .openMap | .closeMap | .comma | .dash | .key | .value | .alias _ | .anchor _
  | .scalar _ false | .endOfText => .isTrue trivial

/-- Whether a node asks for nothing impossible. -/
def Node.IsProper : Node → Prop
  | .scalar tag content => IsPossible tag content
  | .list _ _ => True
  | .map tag _ => tag.isCollection = true

/-- Whether no node in a table asks for anything impossible. -/
def AreProper (nodes : Array Node) : Prop :=
  ∀ node ∈ nodes, node.IsProper

theorem AreProper.setIfInBounds {nodes : Array Node} {node : Node} (proper : AreProper nodes)
    (id : NodeId) (possible : node.IsProper) : AreProper (nodes.setIfInBounds id node) := by
  intro other member
  rcases Array.mem_or_eq_of_mem_setIfInBounds member with old | rfl
  · exact proper other old
  · exact possible

theorem isPossible_text (content : Text) : IsPossible .text content :=
  trivial

theorem isPossible_nil : IsPossible (.ofText []) [] :=
  trivial

theorem map_isProper (entries : List (NodeId × NodeId)) : (Node.map .map entries).IsProper :=
  rfl

theorem unexpected_eq_form {tokens : List Token} (proper : ∀ token ∈ tokens, token.IsProper) :
    unexpected tokens = .form := by
  rcases tokens with _ | ⟨token, rest⟩
  · rfl
  · cases token with
    | broken fault => exact proper (.broken fault) (by simp)
    | _ => rfl

/-! ## Building the table -/

namespace NodeReader

/-- Whether everything read and yet to be read asks for nothing impossible. -/
structure IsProper (reader : NodeReader) : Prop where
  tokens : ∀ token ∈ reader.tokens, token.IsProper
  nodes : AreProper reader.nodes

/-- Whether a reading step leaves a proper reader behind. -/
abbrev ReadsProperly {α : Type} (outcome : Except Fault (α × NodeReader)) : Prop :=
  IsOrderly (fun result => result.2.IsProper) outcome

variable {reader : NodeReader}

theorem IsProper.goOn {token : Token} {rest : List Token} (proper : reader.IsProper)
    (tokens_eq : reader.tokens = token :: rest) : (reader.goOn rest).IsProper where
  tokens other member := proper.tokens other (by simp [tokens_eq, show other ∈ rest from member])
  nodes := proper.nodes

theorem IsProper.add {node : Node} (proper : reader.IsProper) (anchor : Option (List Char))
    (possible : node.IsProper) : (reader.add anchor node).2.IsProper where
  tokens := proper.tokens
  nodes := by
    intro other member
    rcases Array.mem_push.mp member with old | rfl
    · exact proper.nodes other old
    · exact possible

theorem IsProper.addNull (proper : reader.IsProper) : reader.addNull.2.IsProper :=
  proper.add none isPossible_nil

theorem IsProper.define {node : Node} (proper : reader.IsProper) (id : NodeId)
    (possible : node.IsProper) : (reader.define id node).IsProper where
  tokens := proper.tokens
  nodes := proper.nodes.setIfInBounds id possible

theorem IsProper.unexpected_eq_form (proper : reader.IsProper) :
    unexpected reader.tokens = .form :=
  Yaml.unexpected_eq_form proper.tokens

/-- Where there may be no node, there is either a null or a node. -/
theorem IsProper.nullOr {β : Type} {condition : Prop} [Decidable condition]
    {node : Except Fault (NodeId × NodeReader)}
    {next : NodeId × NodeReader → Except Fault (β × NodeReader)} (proper : reader.IsProper)
    (nodeProper : ReadsProperly node)
    (nextProper : ∀ result, result.2.IsProper → ReadsProperly (next result)) :
    ReadsProperly (if condition then Except.ok reader.addNull >>= next else node >>= next) := by
  split
  · exact nextProper _ proper.addNull
  · exact nodeProper.bind nextProper

/-- A collection that is added before its parts and filled in after them. -/
theorem IsProper.collect {α : Type} {anchor : Option (List Char)} {node : List α → Node}
    {readParts : NodeReader → Except Fault (List α × NodeReader)} (proper : reader.IsProper)
    (nodeProper : ∀ parts, (node parts).IsProper)
    (partsProper : ∀ {reader : NodeReader}, reader.IsProper → ReadsProperly (readParts reader)) :
    ReadsProperly (do
      let (id, reader) := reader.add anchor (node [])
      let (parts, reader) ← readParts reader
      return (id, reader.define id (node parts))) :=
  (partsProper (proper.add anchor (nodeProper []))).bind fun _ proper =>
    proper.define _ (nodeProper _)

/-- Parts after the first one follow a comma. -/
theorem IsProper.afterComma {α : Type} {isFirst : Bool}
    {next : NodeReader → Except Fault (α × NodeReader)} (proper : reader.IsProper)
    (nextProper : ∀ reader, reader.IsProper → ReadsProperly (next reader)) :
    ReadsProperly (if isFirst = true then Except.ok reader >>= next else
      match reader.tokens with
      | .comma :: rest => Except.ok (reader.goOn rest) >>= next
      | tokens => Except.error (unexpected tokens) >>= next) := by
  split
  · exact nextProper _ proper
  · split
    · next rest tokens_eq => exact nextProper _ (proper.goOn tokens_eq)
    · exact proper.unexpected_eq_form

theorem readProperties_isOrderly (proper : reader.IsProper) :
    IsOrderly (fun result => result.1.tag = none ∧ result.2.IsProper) reader.readProperties := by
  have noTag (name : TagName) : .tag name ∉ reader.tokens := fun member => proper.tokens _ member
  have broken (fault : Fault) (member : .broken fault ∈ reader.tokens) : fault = .form :=
    proper.tokens (.broken fault) member
  have suffix (rest : List Token) (suffix : rest <:+ reader.tokens) : (reader.goOn rest).IsProper :=
    ⟨fun token member => proper.tokens token (suffix.subset member), proper.nodes⟩
  unfold readProperties
  split
  next anchor tag? rest parts_eq =>
  obtain ⟨rfl, within⟩ : tag? = none ∧ rest <:+ reader.tokens := by
    split at parts_eq
    · next name tag rest tokens_eq => exact (noTag tag (by simp [tokens_eq])).elim
    · next tokens_eq =>
        cases parts_eq
        exact ⟨rfl, by simp [tokens_eq]⟩
    · next tag name rest tokens_eq => exact (noTag tag (by simp [tokens_eq])).elim
    · next tag rest _ tokens_eq => exact (noTag tag (by simp [tokens_eq])).elim
    · cases parts_eq
      exact ⟨rfl, List.suffix_rfl⟩
  dsimp only
  split
  · next fault tail => exact broken fault (within.subset (by simp))
  · exact ⟨rfl, suffix rest within⟩

mutual

/-- A reader of nodes goes on with what is proper, up to a fault of form. -/
theorem readNode_isOrderly : ∀ (fuel : Nat) (place : NodePlace) {reader : NodeReader},
    reader.IsProper → ReadsProperly (readNode fuel place reader)
  | 0, _, _, _ => rfl
  | fuel + 1, place, reader, proper => by
      rw [readNode]
      split
      · next name rest tokens_eq =>
          split
          · exact proper.goOn tokens_eq
          · rfl
      · refine (readProperties_isOrderly proper).bind ?_
        rintro ⟨properties, reader⟩ ⟨noTag, proper⟩
        dsimp only
        split
        · rfl
        · exact readContent_isOrderly fuel place noTag proper

theorem readContent_isOrderly : ∀ (fuel : Nat) (place : NodePlace) {properties : NodeProperties}
    {reader : NodeReader}, properties.tag = none → reader.IsProper →
      ReadsProperly (readContent fuel place properties reader)
  | 0, _, _, _, _, _ => rfl
  | fuel + 1, place, properties, reader, noTag, proper => by
      have mapTag_eq : properties.collectionTag .map = .map := by
        simp [NodeProperties.collectionTag, noTag]
      unfold readContent
      rw [mapTag_eq]
      dsimp only
      split
      · next content isPlain rest tokens_eq =>
          refine (proper.goOn tokens_eq).add _ ?_
          have token := proper.tokens (.scalar content isPlain) (by simp [tokens_eq])
          cases isPlain with
          | true =>
              simpa [Token.IsProper, Node.IsProper, NodeProperties.scalarTag, noTag] using token
          | false =>
              simpa [Node.IsProper, NodeProperties.scalarTag, noTag] using isPossible_text content
      · next rest tokens_eq =>
          exact (proper.goOn tokens_eq).collect (fun _ => trivial) fun proper =>
            readBracketItems_isOrderly fuel true proper
      · next rest tokens_eq =>
          exact (proper.goOn tokens_eq).collect map_isProper fun proper =>
            readBracketEntries_isOrderly fuel true proper
      · next rest tokens_eq =>
          exact (proper.goOn tokens_eq).collect (fun _ => trivial) fun proper =>
            readItems_isOrderly fuel true proper
      · next rest tokens_eq =>
          exact (proper.goOn tokens_eq).collect (fun _ => trivial) fun proper =>
            readItems_isOrderly fuel true proper
      · next rest tokens_eq =>
          exact (proper.goOn tokens_eq).collect map_isProper fun proper =>
            readEntries_isOrderly fuel proper
      · next rest tokens_eq =>
          exact (proper.goOn tokens_eq).collect map_isProper fun proper =>
            readEntries_isOrderly fuel proper
      · next rest tokens_eq =>
          exact proper.collect (fun _ => trivial) fun proper =>
            readItems_isOrderly fuel false proper
      · split
        · exact proper.unexpected_eq_form
        · refine proper.add _ ?_
          simpa [Node.IsProper, NodeProperties.scalarTag, noTag] using isPossible_nil

theorem readItems_isOrderly : ∀ (fuel : Nat) (isIndented : Bool) {reader : NodeReader},
    reader.IsProper → ReadsProperly (readItems fuel isIndented reader)
  | 0, _, _, _ => rfl
  | fuel + 1, isIndented, reader, proper => by
      rw [readItems]
      split
      · next rest tokens_eq =>
          have proper := proper.goOn tokens_eq
          refine proper.nullOr (readNode_isOrderly fuel _ proper) ?_
          rintro ⟨item, reader⟩ proper
          exact (readItems_isOrderly fuel isIndented proper).bind fun _ proper => proper
      · split
        · split
          · next rest tokens_eq => exact proper.goOn tokens_eq
          · exact proper.unexpected_eq_form
        · exact proper

theorem readEntries_isOrderly : ∀ (fuel : Nat) {reader : NodeReader},
    reader.IsProper → ReadsProperly (readEntries fuel reader)
  | 0, _, _ => rfl
  | fuel + 1, reader, proper => by
      rw [readEntries]
      split
      · next rest tokens_eq =>
          have proper := proper.goOn tokens_eq
          refine proper.nullOr (readNode_isOrderly fuel _ proper) ?_
          rintro ⟨key, reader⟩ proper
          refine (readValue_isOrderly fuel _ _ proper).bind ?_
          rintro ⟨value, reader⟩ proper
          exact (readEntries_isOrderly fuel proper).bind fun _ proper => proper
      · next rest tokens_eq => exact proper.goOn tokens_eq
      · exact proper.unexpected_eq_form

theorem readValue_isOrderly : ∀ (fuel : Nat) (place : NodePlace) (ends : List Token)
    {reader : NodeReader}, reader.IsProper → ReadsProperly (readValue fuel place ends reader)
  | 0, _, _, _, _ => rfl
  | fuel + 1, place, ends, reader, proper => by
      rw [readValue]
      split
      · next rest tokens_eq =>
          have proper := proper.goOn tokens_eq
          dsimp only
          split
          · exact proper.addNull
          · exact readNode_isOrderly fuel place proper
      · exact proper.addNull

theorem readBracketItems_isOrderly : ∀ (fuel : Nat) (isFirst : Bool) {reader : NodeReader},
    reader.IsProper → ReadsProperly (readBracketItems fuel isFirst reader)
  | 0, _, _, _ => rfl
  | fuel + 1, isFirst, reader, proper => by
      rw [readBracketItems]
      split
      · next rest tokens_eq => exact proper.goOn tokens_eq
      · refine proper.afterComma fun reader proper => ?_
        dsimp only
        split
        · next rest tokens_eq => exact proper.goOn tokens_eq
        · next rest tokens_eq =>
            have proper := (proper.goOn tokens_eq).add none (map_isProper [])
            refine proper.nullOr (readNode_isOrderly fuel _ proper) fun (key, reader) proper => ?_
            refine (readValue_isOrderly fuel _ _ proper).bind fun (value, reader) proper => ?_
            refine (readBracketItems_isOrderly fuel false ?_).bind fun _ proper => proper
            exact proper.define _ (map_isProper [(key, value)])
        · refine (readNode_isOrderly fuel _ proper).bind fun (item, reader) proper => ?_
          exact (readBracketItems_isOrderly fuel false proper).bind fun _ proper => proper

theorem readBracketEntries_isOrderly : ∀ (fuel : Nat) (isFirst : Bool) {reader : NodeReader},
    reader.IsProper → ReadsProperly (readBracketEntries fuel isFirst reader)
  | 0, _, _, _ => rfl
  | fuel + 1, isFirst, reader, proper => by
      rw [readBracketEntries]
      split
      · next rest tokens_eq => exact proper.goOn tokens_eq
      · refine proper.afterComma fun reader proper => ?_
        dsimp only
        split
        · next rest tokens_eq => exact proper.goOn tokens_eq
        · next rest tokens_eq =>
            have proper := proper.goOn tokens_eq
            refine proper.nullOr (readNode_isOrderly fuel _ proper) fun (key, reader) proper => ?_
            refine (readValue_isOrderly fuel _ _ proper).bind fun (value, reader) proper => ?_
            exact (readBracketEntries_isOrderly fuel false proper).bind fun _ proper => proper
        · refine (readNode_isOrderly fuel _ proper).bind fun (key, reader) proper => ?_
          exact (readBracketEntries_isOrderly fuel false proper.addNull).bind fun _ proper => proper

end

theorem node_isOrderly (place : NodePlace) (proper : reader.IsProper) :
    ReadsProperly (reader.node place) :=
  readNode_isOrderly _ place proper

end NodeReader

/-! ## Documents -/

variable {tokens : List Token}

theorem readDirectives_isOrderly : ∀ (hasVersion : Bool) (handles : TagHandles)
    {tokens : List Token}, (∀ token ∈ tokens, token.IsProper) →
      IsOrderly (fun result => ∀ token ∈ result.2, token.IsProper)
        (readDirectives hasVersion handles tokens) := by
  intro hasVersion handles tokens proper
  fun_induction readDirectives hasVersion handles tokens with
  | case1 | case3 => rfl
  | case2 _ _ _ _ _ ih | case4 _ _ _ _ _ _ ih | case5 _ _ _ ih =>
      exact ih fun token member => proper token (List.mem_cons_of_mem _ member)
  | case6 => exact proper

theorem checkEnd_isOrderly (proper : ∀ token ∈ tokens, token.IsProper) :
    IsOrderly (fun _ => True) (checkEnd tokens) := by
  have proper : ∀ token ∈ tokens.dropWhile (· == .endMarker), token.IsProper :=
    fun token member => proper token ((List.dropWhile_suffix _).subset member)
  unfold checkEnd
  split
  · trivial
  · refine (readDirectives_isOrderly false [] proper).bind fun (_, rest) proper => ?_
    exact unexpected_eq_form proper

/-- Whether a document has a table without impossible nodes. -/
def NodeDocument.IsProper (document : NodeDocument) : Prop :=
  AreProper document.nodes

/-- The document of a reader that has come to the end. -/
theorem finish_isOrderly {reader : NodeReader} (root : NodeId) (proper : reader.IsProper) :
    IsOrderly (fun document? => ∀ document ∈ document?, document.IsProper) (do
      checkEnd reader.tokens
      return some { nodes := reader.nodes, root : NodeDocument }) := by
  refine (checkEnd_isOrderly proper.tokens).bind fun _ _ document member => ?_
  cases member
  exact proper.nodes

/-- The table of a text without impossible tokens holds no impossible node. -/
theorem ofTokens_isOrderly (proper : ∀ token ∈ tokens, token.IsProper) :
    IsOrderly (fun document? => ∀ document ∈ document?, document.IsProper)
      (NodeDocument.ofTokens tokens) := by
  have start (handles : TagHandles) {rest : List Token} (proper : ∀ token ∈ rest, token.IsProper) :
      NodeReader.IsProper { handles, tokens := rest } :=
    ⟨proper, fun node member => by simp at member⟩
  unfold NodeDocument.ofTokens
  split
  case h_1 =>
    intro document member
    cases member
  case h_4 =>
    exact (NodeReader.node_isOrderly .inBlock (start _ proper)).bind fun (root, _) proper =>
      finish_isOrderly root proper
  all_goals
    -- Whichever comes first, a directive or the marker, the directives are read.
    refine (readDirectives_isOrderly false [] proper).bind fun (handles, rest) proper => ?_
    dsimp only at proper ⊢
    split
    · next rest =>
        have reader := start handles fun token member =>
          proper token (List.mem_cons_of_mem _ member)
        exact IsOrderly.bind_ite (show NodeReader.ReadsProperly (.ok _) from reader.addNull)
          (NodeReader.node_isOrderly .inBlock reader) fun (root, _) proper =>
            finish_isOrderly root proper
    · exact unexpected_eq_form proper

/-! ## Values -/

variable {nodes : Array Node} {id : NodeId}

theorem AreProper.isProper_of_getElem? {node : Node} (proper : AreProper nodes)
    (found : nodes[id]? = some node) : node.IsProper :=
  proper node (Array.mem_of_getElem? found)

/-- Whether what is known of a value can be written. -/
def NodeValue.IsWritable : NodeValue → Prop
  | .scalar content _ => content.IsWritable
  | .collection => True

theorem nodeValue_isOrderly (proper : AreProper nodes) (id : NodeId) :
    IsOrderly NodeValue.IsWritable (nodeValue nodes id) := by
  unfold nodeValue
  split
  · rfl
  · next node found =>
      have possible := proper.isProper_of_getElem? found
      split
      · exact (trivial : NodeValue.IsWritable .collection)
      · next noCollection =>
          split
          · cases node with
            | scalar tag content =>
                rw [scalarNodeValue_scalar found]
                exact IsOrderly.bind possible fun value writable => writable
            | list tag items =>
                rw [scalarNodeValue, scalarContent, found]
                rfl
            | map tag entries => exact (noCollection possible).elim
          · rfl

namespace ValueTable

variable {table : ValueTable}

/-- Whether a table has no impossible node, and no recorded value that cannot be written. -/
structure IsProper (table : ValueTable) : Prop where
  nodes : AreProper table.nodes
  recorded : ∀ (id : NodeId) (value : NodeValue),
    table.values[id]? = some (some value) → value.IsWritable

theorem value_isOrderly (proper : table.IsProper) (id : NodeId) :
    IsOrderly NodeValue.IsWritable (table.value id) := by
  unfold value
  split
  · next found => exact proper.recorded id _ found
  · exact nodeValue_isOrderly proper.nodes id

theorem IsProper.record (proper : table.IsProper) (id : NodeId) : (table.record id).IsProper where
  nodes := proper.nodes
  recorded other value found := by
    rcases recorded_of_record found with before | ⟨-, value_eq⟩
    · exact proper.recorded other value before
    · exact (value_isOrderly proper id).of_eq_ok value_eq

theorem IsProper.foldl_record (proper : table.IsProper) (ids : List NodeId) :
    (ids.foldl ValueTable.record table).IsProper := by
  induction ids generalizing table with
  | nil => exact proper
  | cons id ids ih => exact ih (proper.record id)

theorem isProper_ofNodes (proper : AreProper nodes) : (ofNodes nodes).IsProper where
  nodes := proper
  recorded id value found := by simp [ofNodes, Array.getElem?_replicate] at found

theorem checkPart_isOrderly (proper : table.IsProper) (id : NodeId) :
    IsOrderly (fun _ => True) (table.checkPart id) :=
  (value_isOrderly proper id).bind fun value _ => by cases value <;> trivial

theorem checkEntry_isOrderly (proper : table.IsProper) (entry : NodeId × NodeId) :
    IsOrderly (fun _ => True) (table.checkEntry entry) := by
  have keyOrderly : IsOrderly (fun _ => True) (table.checkKey entry.1) :=
    (value_isOrderly proper entry.1).bind fun value _ => by cases value <;> trivial
  exact keyOrderly.bind fun _ _ => checkPart_isOrderly proper entry.2

theorem checkPair_isOrderly (proper : table.IsProper) (item : NodeId) :
    IsOrderly (fun _ => True) (table.checkPair item) := by
  unfold checkPair
  split
  · next key value _ =>
      exact (checkPart_isOrderly proper key).bind fun _ _ =>
        (checkPart_isOrderly proper value).bind fun _ _ => trivial
  · rfl

theorem checkParts_isOrderly (proper : table.IsProper) (id : NodeId) :
    IsOrderly (fun _ => True) (table.checkParts id) := by
  unfold checkParts
  split
  · exact (IsOrderly.mapM fun item _ => checkPart_isOrderly proper item).bind fun _ _ => trivial
  · exact (IsOrderly.mapM fun entry _ => checkEntry_isOrderly proper entry).bind fun _ _ => trivial
  · exact (IsOrderly.mapM fun entry _ => checkEntry_isOrderly proper entry).bind fun _ _ => trivial
  · exact (IsOrderly.mapM fun item _ => checkPair_isOrderly proper item).bind fun _ _ => trivial
  · exact (IsOrderly.mapM fun item _ => checkPair_isOrderly proper item).bind fun _ _ => trivial
  · rfl

end ValueTable

/-! ## Merge keys -/

theorem AreProper.setEntries (proper : AreProper nodes) (id : NodeId)
    (entries : List (NodeId × NodeId)) : AreProper (setEntries nodes id entries) := by
  unfold Yaml.setEntries
  split
  · next tag old found =>
      have possible : tag.isCollection = true := proper.isProper_of_getElem? found
      exact proper.setIfInBounds id possible
  · exact proper

/-- The keys that become texts are possible. -/
theorem AreProper.plainKeys (proper : AreProper nodes) (entries : List (NodeId × NodeId)) :
    AreProper (plainKeys nodes entries) := by
  unfold Yaml.plainKeys
  induction entries generalizing nodes with
  | nil => exact proper
  | cons entry entries ih =>
      rcases entry with ⟨key, value⟩
      rw [List.foldl_cons]
      apply ih
      dsimp only
      split
      · next node found =>
          have possible := proper.isProper_of_getElem? found
          split
          · next isValue =>
              apply proper.setIfInBounds
              cases node with
              | scalar tag content => exact isPossible_text content
              | list tag items => trivial
              | map tag entries =>
                  obtain rfl : tag = .value := isValue
                  cases possible
          · exact proper
      · exact proper

theorem mergedMaps_isOrderly (nodes : Array Node) (id : NodeId) :
    IsOrderly (fun _ => True) (mergedMaps nodes id) := by
  unfold mergedMaps
  split
  · trivial
  · split <;> trivial
  · trivial

theorem resolveMerges_isOrderly (steps : Nat) (proper : AreProper nodes) (id : NodeId) :
    IsOrderly AreProper (resolveMerges steps nodes id) := by
  induction steps generalizing nodes id with
  | zero => exact proper
  | succ steps ih =>
      unfold resolveMerges
      dsimp only
      split
      · exact proper.plainKeys _
      · next merged _ =>
          refine (mergedMaps_isOrderly nodes merged).bind fun maps _ => ?_
          have own := AreProper.setEntries proper id
          refine (IsOrderly.foldlM (fun state => AreProper state.1) (own _) ?_).bind ?_
          · rintro ⟨nodes, inherited⟩ map - proper
            exact (ih proper map).bind fun nodes proper => proper
          · rintro ⟨nodes, inherited⟩ proper
            refine (ih proper id).bind fun nodes proper => ?_
            exact AreProper.setEntries proper id _

namespace ValueTable

variable {table : ValueTable}

theorem resolve_isOrderly (proper : table.IsProper) (id : NodeId) :
    IsOrderly IsProper (table.resolve id) := by
  have resolved : IsOrderly IsProper (do
      return { table with nodes := ← resolveMap table.nodes id }) :=
    (resolveMerges_isOrderly _ proper.nodes id).bind fun nodes nodesProper =>
      ⟨nodesProper, proper.recorded⟩
  unfold resolve
  split
  · exact resolved
  · exact resolved
  · exact proper

/-- Settling keeps a table proper. -/
theorem settle_isOrderly (steps : Nat) (proper : table.IsProper) (seen queue : List NodeId) :
    IsOrderly IsProper (table.settle steps seen queue) := by
  induction steps generalizing table seen queue with
  | zero => exact proper
  | succ steps ih =>
      rcases queue with _ | ⟨id, queue⟩
      · exact proper
      · rw [settle]
        refine (resolve_isOrderly proper id).bind fun table proper => ?_
        refine (checkParts_isOrderly proper id).bind fun parts _ => ?_
        exact ih (proper.foldl_record _) _ _

/-! ## Texts -/

theorem keyScalar_isWritable (proper : table.IsProper) (id : NodeId) :
    (table.keyScalar id).IsWritable := by
  unfold keyScalar
  split
  · next content isNanLiteral value_eq => exact (value_isOrderly proper id).of_eq_ok value_eq
  · trivial

/-- The scalars in the graph of a proper table can be written. -/
theorem graph_isWritable (proper : table.IsProper) : table.graph.IsWritable := by
  have cell_eq {id : NodeId} {cell : Cell} (found : table.graph.cells[id]? = some cell) :
      cell = table.cellOf id := by
    obtain ⟨inside, rfl⟩ := Array.getElem?_eq_some_iff.mp found
    simp [graph]
  intro place content layer_eq
  cases place with
  | cell id =>
      rw [Graph.layer] at layer_eq
      split at layer_eq
      · cases layer_eq
        trivial
      · next found =>
          have layer_eq := (cell_eq found).symm.trans (congrArg Cell.value layer_eq)
          unfold cellOf at layer_eq
          split at layer_eq <;> cases layer_eq
          exact keyScalar_isWritable proper id
      · cases layer_eq
  | pair id index =>
      rw [Graph.layer] at layer_eq
      split at layer_eq <;> cases layer_eq
      trivial

end ValueTable

/-- Whether a value in a graph can be written, with all there is in the graph. -/
def Document.IsWritable (document : Document) : Prop :=
  document.graph.IsWritable

theorem value_isOrderly {document : NodeDocument} (proper : document.IsProper) :
    IsOrderly Document.IsWritable document.value := by
  have table := ValueTable.isProper_ofNodes proper
  refine (ValueTable.checkPart_isOrderly table document.root).bind fun queue _ => ?_
  refine (ValueTable.settle_isOrderly _ (table.record document.root) queue queue).bind ?_
  exact fun settled settledProper => ValueTable.graph_isWritable settledProper

/-- Whether a text has no tags, and no plain scalar that is impossible by its
form. -/
def HasProperTokens (text : Text) : Prop :=
  ∀ characters ∈ text.characters?, ∀ token ∈ tokensOf characters, token.IsProper

instance (text : Text) : Decidable (HasProperTokens text) :=
  inferInstanceAs (Decidable (∀ characters ∈ text.characters?,
    ∀ token ∈ tokensOf characters, token.IsProper))

/-- A text with proper tokens is either read, as a value that can be written, or
not well formed. -/
theorem read_isOrderly {text : Text} (proper : HasProperTokens text) :
    IsOrderly (fun document? => ∀ document ∈ document?, document.IsWritable) (read text) := by
  unfold read
  split
  · rfl
  · next characters characters_eq =>
      have tokens := proper characters characters_eq
      dsimp only
      split
      · rfl
      · refine (ofTokens_isOrderly tokens).bind fun document? documents => ?_
        cases document? with
        | none => exact fun document member => absurd member (Option.not_mem_none document)
        | some document =>
            refine (value_isOrderly (documents document rfl)).bind fun value writable => ?_
            intro other member
            cases member
            exact writable

end UsageContracts.Yaml
