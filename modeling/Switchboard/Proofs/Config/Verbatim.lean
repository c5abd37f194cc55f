import Switchboard.Proofs.Config.Programmatic
import Switchboard.Proofs.Config.Replaced
import Switchboard.Proofs.Config.Words

set_option autoImplicit false

namespace Switchboard

namespace SessionSettings

/-- The variable that sets the key of a session. -/
def keyVariable : String := "MIRAI_SESSION__AUTH_KEY"

theorem path?_keyVariable : Variable.path? keyVariable = some keyPath := by decide +kernel

def keyFault (found : Shape.Found) : ConfigError :=
  .misfit ⟨keyPath, .wrongType found "a string"⟩

/-- What becomes of a text in the variable of the key, if everything else makes a configuration. -/
structure KeyArrives (load : String → Except ConfigError Config) (config : Config) : Prop where
  /-- The key is what the text is read as, and nothing but a text will do. -/
  read : ∀ text, load text = match Variable.value text with
    | .str key => .ok (config.withKey key)
    | .char key => .ok (config.withKey (String.singleton key))
    | other => .error (keyFault (.ofJson other))
  /-- A text that is neither marked nor looks like a truth value or a number arrives as it is. -/
  verbatim : ∀ text, Variable.Trimmed text → Variable.Unmarked text → ¬ Variable.IsScalar text →
    load text = .ok (config.withKey text)
  /-- A text that looks like a truth value or a number is refused. -/
  scalar : ∀ text, Variable.IsScalar text → ∃ found, load text = .error (keyFault found)
  /-- A text in brackets is refused if it can be read as a list or a table. -/
  bracketed : ∀ text bracket, bracket ∈ text.toList.head? → bracket = '[' ∨ bracket = '\x7b' →
    load text = .ok (config.withKey text) ∨ load text = .error (keyFault .sequence) ∨
      load text = .error (keyFault .map)
  /-- A text that starts with a quote may lose characters, but it is never refused. -/
  quoted : ∀ text quote, quote ∈ text.toList.head? → quote = '"' ∨ quote = '\'' →
    ∃ key, load text = .ok (config.withKey key) ∧ (key = text ∨ key.length < text.length)
  /-- Quotes around a text are taken off. -/
  unquoted : ∀ body : List Char,
    (∀ c ∈ body, c ≠ '"' ∧ c ≠ '\\' ∧ Toml.isPlain c = true) →
    load (String.ofList ('"' :: (body ++ ['"']))) = .ok (config.withKey (String.ofList body))

end SessionSettings

namespace Loader

open SessionSettings (keyPath keyVariable)

variable {loader : Loader} {here : Surroundings} {gap : Variable.Gap}

/-- The text of the variable of the key arrives as the key exactly as far as it is read as a
text. -/
theorem key_arrives_as_read (reading : loader.useVariables = true)
    (sets : gap.Sets SessionSettings.keyPath) {documented : String} {config : Config}
    (loads : loader.load (here.filled gap documented) = .ok config) :
    SessionSettings.KeyArrives (fun text => loader.load (here.filled gap text)) config := by
  have read := load_filled reading sets loads
  have as_text : ∀ {text key}, Shape.text (Variable.value text) = .ok key →
      loader.load (here.filled gap text) = .ok (config.withKey key) := by
    intro text key shown
    rw [read]
    generalize Variable.value text = value at shown ⊢
    cases value with
    | str | char => cases shown; rfl
    | _ => cases shown
  refine ⟨read, ?_, ?_, ?_, ?_, ?_⟩
  · intro text trimmed unmarked no_scalar
    exact as_text (congrArg Shape.text (Variable.value_verbatim trimmed unmarked no_scalar))
  · intro text scalar
    have no_text := Variable.value_of_isScalar scalar
    refine ⟨.ofJson (Variable.value text), (read text).trans ?_⟩
    cases shown : Variable.value text with
    | str key => exact absurd (congrArg Shape.text shown) (no_text key)
    | char key => exact absurd (congrArg Shape.text shown) (no_text (String.singleton key))
    | _ => rfl
  · intro text bracket first opens
    rcases Variable.value_bracketed first opens with same | ⟨items, list⟩ | ⟨members, table⟩
    · exact .inl (as_text (congrArg Shape.text same))
    · exact .inr (.inl ((read text).trans (by rw [list]; rfl)))
    · exact .inr (.inr ((read text).trans (by rw [table]; rfl)))
  · intro text quote first opens
    rcases Variable.value_quoted first opens with same | ⟨inner, shown, shorter⟩
    · exact ⟨text, as_text (congrArg Shape.text same), .inl rfl⟩
    · exact ⟨inner, as_text shown, .inr shorter⟩
  · intro body plain
    exact as_text (congrArg Shape.text (Variable.value_in_quotes plain))

/-- The environment of a single variable, that of the key. -/
def keyGap : Variable.Gap := ⟨[], keyVariable, []⟩

theorem keyGap_sets : keyGap.Sets keyPath where
  named := SessionSettings.path?_keyVariable
  last _ listed := nomatch listed

theorem default_read : Config.decode .layered Config.default.encode = .ok Config.default := by
  have typed : Config.default.Typed := withTimeout_typed Config.default.connection.requestTimeout
  have exact : ∀ d ∈ Config.default.durations, d.Exact :=
    @withTimeout_durations Config.default.connection.requestTimeout _
      ⟨by decide, by decide⟩ ⟨by decide, by decide⟩ ⟨by decide, by decide⟩
  rw [Config.decode_encode .layered typed fun d listed => (exact d listed).writable,
    Config.rounded_eq_self fun d listed => (exact d listed).whole]

theorem dictionary_keyed (text : String) :
    (start bare).dictionary (bare.filled keyGap text) =
      .ok (Layer.overlay Config.default.encode (Variable.nest (Variable.value text) keyPath)) := by
  have none_found : (start bare).files (bare.filled keyGap text) = .ok [] := by
    rw [files_filled, files]
    exact congrArg (fun found => Except.ok found.1)
      (filesIn_none fun _ _ => ⟨bare_hasPath _, bare_hasPath _⟩)
  have alone : Variable.layer (keyGap.fill text) = Variable.nest (Variable.value text) keyPath :=
    (Variable.Gap.layer_fill keyGap_sets text).trans (Layer.overlay_nothing
      (Variable.ordered_nest (Variable.ordered_value text) keyPath))
  rw [dictionary_of_files none_found rfl]
  change Except.ok (Layer.stack [Config.default.encode, Variable.layer (keyGap.fill text)]) = _
  rw [Config.stack_cons, alone]
  rfl

theorem documented_loads :
    (start bare).load (bare.filled keyGap "xxx") = .ok (Config.default.withKey "xxx") := by
  have held : Config.default.encode.at? keyPath = some (.str "") := by rfl
  have found : (Layer.overlay Config.default.encode
      (Variable.nest (.str "xxx") keyPath)).at? keyPath = some (.str "xxx") := by
    have ordered : (Json.str "xxx").Ordered := trivial
    rw [Layer.at?_overlay _ (Variable.ordered_nest ordered keyPath),
      if_pos (Layer.decides_of_held (Variable.at?_nest _ _)), Variable.at?_nest, held]
    rfl
  refine (load_eq_ok_iff (dictionary_keyed "xxx") _).mpr ⟨?_, ?_⟩
  · exact Config.decode_beside (Variable.agree_nest held (.str "xxx")) found default_read
  · exact @withTimeout_check Config.default.connection.requestTimeout (by decide)

/-- This is so for the defaults and a variable that stands alone. -/
theorem secret_arrives :
    SessionSettings.KeyArrives (fun text => (start bare).load (bare.filled keyGap text))
      (Config.default.withKey "xxx") :=
  key_arrives_as_read rfl keyGap_sets documented_loads

/-- A key of digits does not arrive. -/
theorem digits_refused :
    ¬ ∀ (loader : Loader) (here : Surroundings) (gap : Variable.Gap) (documented : String)
        (config : Config), loader.useVariables = true → gap.Sets keyPath →
      loader.load (here.filled gap documented) = .ok config →
      ∀ text : String, text ≠ "" → Variable.Trimmed text →
        loader.load (here.filled gap text) = .ok (config.withKey text) := by
  intro arrives
  have trimmed : Variable.Trimmed "1234567890" := by
    rintro c (⟨⟨⟩⟩ | ⟨⟨⟩⟩)
    · decide
    · decide
  have loaded := arrives (start bare) bare keyGap "xxx" _ rfl keyGap_sets documented_loads
    "1234567890" (by decide) trimmed
  rw [load_filled rfl keyGap_sets documented_loads] at loaded
  cases loaded

end Loader

end Switchboard
