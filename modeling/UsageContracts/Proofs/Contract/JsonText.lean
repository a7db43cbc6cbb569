import UsageContracts.Contract.Text
import UsageContracts.Proofs.Contract.Agreement
import UsageContracts.Proofs.Json.Reading
import UsageContracts.Proofs.Yaml.Tokens
import UsageContracts.Proofs.Yaml.Values

/-!
# Reading contracts from JSON texts

A contract is read from the text of a JSON object as from the object, if the text
is as YAML asks.  Not every JSON text is: tabs, for one, are no white space between
tokens of YAML.
-/

namespace UsageContracts.Policy

open Json (Source)

/-- From a portable text the same contract is read, or the same fault found, as from
the value of the text. -/
theorem ofText_eq_read {source : Source} (isObject : source.IsObject)
    (isPortable : source.IsPortable) :
    ofText source.text = (read Value.view source.json.toValue).mapError .contract := by
  rcases source.flow_sound isPortable with ⟨sound, value_eq⟩
  let nodes := (source.flow.nodesFrom 0).toArray
  obtain ⟨table, shows, read_eq⟩ : ∃ table : Yaml.ValueTable, table.Shows nodes ∧
      Yaml.read source.text = .ok (some { graph := table.graph, root := .cell 0 }) :=
    Yaml.exists_read_of_tokensOf (Text.characters?_ofCharacters _)
      (source.isAllowed_characters isPortable) (Source.tokensOf_source isObject isPortable) sound
  have held : source.flow.IsHeldAt nodes 0 :=
    @Yaml.Flow.isHeldAt_of_nodesFrom _ source.flow sound [] [] (by simp [nodes])
  have represents : Yaml.Represents nodes (.cell 0) source.json.toValue :=
    value_eq ▸ .intro source.flow held
  have agrees := Yaml.graph_agrees shows
  have notNull : (table.graph.view.layer (.cell 0)).isNull = false := by
    rcases source.isObject_iff.mp isObject with ⟨members, json_eq⟩
    rw [agrees.isNull_eq represents, json_eq]
    rfl
  rw [ofText, read_eq]
  simp only [ofDocument]
  rw [notNull, agrees.policy_eq represents]
  rfl

/-- A contract is read from the text of a JSON object as from the value that a
reader of JSON finds, if the text is portable. -/
theorem ofText_eq_read_json {source : Source} (isObject : source.IsObject)
    (isReadable : source.IsReadable) (isPortable : source.IsPortable) :
    ∃ json, Json.read source.text = .ok json ∧
      ofText source.text = (read Value.view json.toValue).mapError .contract :=
  ⟨source.json, Json.read_source isReadable, ofText_eq_read isObject isPortable⟩

/-! ## Samples -/

/-- A text that permits use up to a bound, without white space but that around the
bound. -/
def boundedUse (bound : Source) : Source :=
  .object
    (.plain "permission".toList (by decide),
      .list
        (.object
          (.plain "constraint".toList (by decide),
            .object
              (.plain "leftOperand".toList (by decide), .string (.plain "COUNT".toList (by decide)))
              [ (.plain "operator".toList (by decide), .string (.plain "LTEQ".toList (by decide))),
                (.plain "rightOperand".toList (by decide), bound) ])
          [])
        [])
    []

/-- The contract that permits use up to a bound. -/
def boundedUseContract (bound : Text) : Policy where
  rules :=
    [{ kind := .permission
       constraints := [{ operand := .count, operator := .atMost, value := ⟨bound, .string⟩ }] }]

theorem boundedUse_obeys {rules : Source.Rules} (spacing : rules.spacing [])
    (string : ∀ {characters : List Char} (isPlain),
      (characters.all fun character => decide (character.toNat < 0x7F)) = true →
        rules.string (.plain characters isPlain))
    (name : ∀ {characters : List Char} (isPlain),
      (Json.Pieces.plain characters isPlain).characters.length ≤ Yaml.longestKey →
        rules.name (.plain characters isPlain))
    {bound : Source} (obeys : bound.Obeys rules) : (boundedUse bound).Obeys rules := by
  have names : (["leftOperand", "operator", "rightOperand"] : List Text).Nodup := by
    decide
  have single (name : Text) : [name].Nodup := by
    simp
  have member {characters : List Char} (isPlain)
      (small : (characters.all fun character => decide (character.toNat < 0x7F)) = true)
      (short : (Json.Pieces.plain characters isPlain).characters.length ≤ Yaml.longestKey) :
      rules.spacing [] ∧ rules.string (.plain characters isPlain) ∧ rules.spacing [] ∧
        rules.name (.plain characters isPlain) :=
    ⟨spacing, string isPlain small, spacing, name isPlain short⟩
  refine ⟨single _, ⟨member _ (by decide) (by decide), ?_, trivial⟩, trivial⟩
  refine ⟨single _, ⟨member _ (by decide) (by decide), ?_⟩, trivial⟩
  exact ⟨names, ⟨member _ (by decide) (by decide), string _ (by decide)⟩,
    ⟨member _ (by decide) (by decide), string _ (by decide)⟩,
    ⟨member _ (by decide) (by decide), obeys⟩, trivial⟩

theorem boundedUse_isReadable {bound : Source} (isReadable : bound.IsReadable) :
    (boundedUse bound).IsReadable := by
  refine boundedUse_obeys trivial (fun isPlain _ piece member half => ?_) (fun _ _ => trivial)
    isReadable
  rcases List.mem_pmap.mp member with ⟨character, inCharacters, rfl⟩
  nofun

theorem boundedUse_isPortable {bound : Source} (isPortable : bound.IsPortable) :
    (boundedUse bound).IsPortable := by
  refine @boundedUse_obeys Json.portable List.not_mem_nil (fun isPlain small piece member => ?_)
    (fun _ short => ⟨List.forall_mem_nil _, short⟩) _ isPortable
  rcases List.mem_pmap.mp member with ⟨character, inCharacters, rfl⟩
  exact Yaml.isOnLine_printable _ (Text.forall_mem_of_all small character inCharacters)

/-- The numeral 2.5E+1. -/
def pointedNumeral : DecimalText where
  whole := ⟨['2'], by decide, List.forall_mem_singleton.mpr rfl⟩
  noZeroAhead := by decide
  fraction := some ⟨['5'], by decide, List.forall_mem_singleton.mpr rfl⟩
  exponent := some
    { isCapital := true
      sign := some false
      digits := ⟨['1'], by decide, List.forall_mem_singleton.mpr rfl⟩ }

theorem boundedUse_ofText :
    let source :=
      boundedUse (.spaced [.carriageReturn, .lineFeed] (.number pointedNumeral) [.space])
    source.IsObject ∧ source.IsReadable ∧ source.IsPortable ∧
      (∃ json, Json.read source.text = .ok json ∧
        ofText source.text = (read Value.view json.toValue).mapError .contract) ∧
      ofText source.text = .ok (boundedUseContract "25.0") := by
  intro source
  have noTab : Json.Blank.tab ∉ [Json.Blank.carriageReturn, .lineFeed] ∧
      Json.Blank.tab ∉ [Json.Blank.space] := by
    decide
  have isPointed : Yaml.IsPointed pointedNumeral := ⟨rfl, by simp [pointedNumeral]⟩
  have isReadable : source.IsReadable :=
    boundedUse_isReadable ⟨trivial, fun _ => by decide, trivial⟩
  have isPortable : source.IsPortable :=
    boundedUse_isPortable ⟨noTab.1, .inr isPointed, noTab.2⟩
  exact ⟨trivial, isReadable, isPortable,
    ofText_eq_read_json trivial isReadable isPortable, by decide +kernel⟩

/-- Not every JSON text is read as the value that a reader of JSON finds: no tab may
stand before a value. -/
theorem boundedUse_unreadable :
    let source := boundedUse (.spaced [.lineFeed, .tab] (.number pointedNumeral) [])
    source.text = "\x7b\"permission\":[\x7b\"constraint\":\x7b\"leftOperand\":\"COUNT\"," ++
        "\"operator\":\"LTEQ\",\"rightOperand\":\n\t2.5E+1\x7d\x7d]\x7d" ∧
      source.IsObject ∧ source.IsReadable ∧ ∃ json, Json.read source.text = .ok json ∧
        (read Value.view json.toValue).mapError TextFault.contract =
          .ok (boundedUseContract "25.0") ∧
        ofText source.text = .error .unreadable := by
  intro source
  have isReadable : source.IsReadable :=
    boundedUse_isReadable ⟨trivial, fun _ => by decide, trivial⟩
  exact ⟨by decide +kernel, trivial, isReadable, source.json, Json.read_source isReadable,
    by decide +kernel, by decide +kernel⟩

end UsageContracts.Policy
