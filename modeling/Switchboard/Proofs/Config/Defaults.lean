import Switchboard.Config.Basic
import Switchboard.Proofs.Config.Layers
import Switchboard.Proofs.Shape.Reading

set_option autoImplicit false

namespace Switchboard

open Layer (Covers)

theorem Endpoint.ordered_encode (endpoint : Endpoint) : endpoint.encode.Ordered := by
  apply Json.ordered_ofMembers
  simp [Json.Ordered, Duration.encode]

theorem SessionSettings.ordered_encode (settings : SessionSettings) :
    settings.encode.Ordered := by
  apply Json.ordered_ofPresent
  have flag : ∀ value ∈ settings.enableWebsocket.map Json.bool, value.Ordered := by
    intro value set
    obtain ⟨enabled, _, rfl⟩ := Option.map_eq_some_iff.mp set
    trivial
  simpa [Json.Ordered, UserId.encode] using flag

theorem Retry.ordered_encode (retry : Retry) : retry.encode.Ordered := by
  apply Json.ordered_ofMembers
  simp [Json.Ordered, Duration.encode]

theorem StreamSettings.ordered_encode (settings : StreamSettings) : settings.encode.Ordered := by
  apply Json.ordered_ofMembers
  simp [Json.Ordered, Retry.ordered_encode]

theorem SpanEvents.ordered_encode (events : SpanEvents) : events.encode.Ordered := by
  apply Json.ordered_ofMembers
  simp [Json.Ordered]

theorem LoggingConfig.ordered_encode (config : LoggingConfig) : config.encode.Ordered := by
  have filters : (Json.ofMembers (config.filters.map fun filter =>
      (filter.1, filter.2.encode))).Ordered := by
    apply Json.ordered_ofMembers
    intro member listed
    obtain ⟨filter, _, rfl⟩ := List.mem_map.mp listed
    trivial
  apply Json.ordered_ofPresent
  simpa [Json.Ordered, LogLevel.encode, LogFormat.encode, LogOutput.encode, LogRotation.encode,
    SpanEvents.ordered_encode] using filters

theorem Config.ordered_encode (config : Config) : config.encode.Ordered := by
  apply Json.ordered_ofMembers
  simp [Endpoint.ordered_encode, SessionSettings.ordered_encode, StreamSettings.ordered_encode,
    LoggingConfig.ordered_encode]

/-- Of two members that may be set, the upper one hides the lower one. -/
structure Hides (upper lower : String × Option Json) : Prop where
  key : upper.1 = lower.1
  value : ∀ held ∈ lower.2, ∃ value ∈ upper.2, Covers value held

namespace Hides

variable {key : String} {upper lower : Json}

theorem of_covers (covers : Covers upper lower) : Hides (key, some upper) (key, some lower) := by
  refine ⟨rfl, ?_⟩
  rintro _ ⟨⟩
  exact ⟨upper, rfl, covers⟩

theorem of_plain (plain : ∀ members, lower ≠ .object members) :
    Hides (key, some upper) (key, some lower) :=
  of_covers (Layer.covers_plain plain)

theorem unset (upper : Option Json) : Hides (key, upper) (key, none) :=
  ⟨rfl, fun _ held => nomatch held⟩

end Hides

theorem Layer.covers_ofPresent {upper lower : List (String × Option Json)}
    (distinct : (lower.map Prod.fst).Nodup) (each : List.Forall₂ Hides upper lower) :
    Covers (.ofPresent upper) (.ofPresent lower) := by
  have keys : upper.map Prod.fst = lower.map Prod.fst := by
    induction each with
    | nil => rfl
    | cons first _ ih =>
      rw [List.map_cons, List.map_cons, first.key, ih (List.nodup_cons.mp distinct).2]
  apply Layer.covers_object
  intro key held found
  change Json.lookup key (Json.presentMembers lower) = some held at found
  change ∃ value, Json.lookup key (Json.presentMembers upper) = some value ∧ Covers value held
  rw [Json.lookup_presentMembers key (keys ▸ distinct)]
  rw [Json.lookup_presentMembers key distinct] at found
  clear keys distinct
  induction each with
  | nil => cases found
  | @cons above below _ _ first _ ih =>
    obtain ⟨name, value⟩ := above
    obtain ⟨name', held'⟩ := below
    cases first.key
    rw [Json.present?] at found ⊢
    split at found
    · next same =>
      rw [if_pos same]
      exact first.value held found
    · next differs =>
      rw [if_neg differs]
      exact ih found

theorem Layer.covers_ofMembers {upper lower : List (String × Json)}
    (distinct : (lower.map Prod.fst).Nodup)
    (each : List.Forall₂ Hides (upper.map fun member => (member.1, some member.2))
      (lower.map fun member => (member.1, some member.2))) :
    Covers (.ofMembers upper) (.ofMembers lower) := by
  rw [Json.ofMembers_eq, Json.ofMembers_eq lower]
  apply Layer.covers_ofPresent _ each
  rw [List.map_map]
  exact distinct

theorem Endpoint.covers_default (endpoint : Endpoint) :
    Covers endpoint.encode default.encode := by
  apply Layer.covers_ofMembers (by simp)
  exact .cons (.of_plain nofun) (.cons (.of_plain nofun) (.cons (.of_plain nofun)
    (.cons (.of_plain nofun) .nil)))

theorem SessionSettings.covers_default (settings : SessionSettings) :
    Covers settings.encode default.encode := by
  apply Layer.covers_ofPresent (by simp)
  exact .cons (.of_plain nofun) (.cons (.of_plain nofun) (.cons (.unset _) (.cons (.unset _) .nil)))

theorem Retry.covers_default (retry : Retry) : Covers retry.encode default.encode := by
  apply Layer.covers_ofMembers (by simp)
  exact .cons (.of_plain nofun) (.cons (.of_plain nofun) (.cons (.of_plain nofun)
    (.cons (.of_plain nofun) .nil)))

theorem StreamSettings.covers_default (settings : StreamSettings) :
    Covers settings.encode default.encode := by
  apply Layer.covers_ofMembers (by simp)
  exact .cons (.of_plain nofun) (.cons (.of_covers settings.retry.covers_default) .nil)

theorem SpanEvents.covers_none (events : SpanEvents) : Covers events.encode none.encode := by
  apply Layer.covers_ofMembers (by simp)
  exact .cons (.of_plain nofun) (.cons (.of_plain nofun) (.cons (.of_plain nofun)
    (.cons (.of_plain nofun) .nil)))

theorem LoggingConfig.covers_default (config : LoggingConfig) :
    Covers config.encode default.encode := by
  have filters : Covers (.ofMembers (config.filters.map fun filter =>
      (filter.1, filter.2.encode))) (.ofMembers []) :=
    Layer.covers_object fun _ _ found => nomatch found
  apply Layer.covers_ofPresent (by simp)
  exact .cons (.of_plain nofun) (.cons (.of_plain nofun) (.cons (.of_plain nofun)
    (.cons (.of_covers filters) (.cons (.unset _) (.cons (.of_plain nofun) (.cons (.of_plain nofun)
      (.cons (.of_plain nofun) (.cons (.of_covers config.spanEvents.covers_none) .nil))))))))

theorem Config.covers_default (config : Config) : Covers config.encode default.encode := by
  apply Layer.covers_ofMembers (by simp)
  exact .cons (.of_covers config.connection.covers_default)
    (.cons (.of_covers config.session.covers_default)
      (.cons (.of_covers config.stream.covers_default)
        (.cons (.of_covers config.logging.covers_default) .nil)))

namespace Config

theorem overlay_encode (config : Config) :
    Layer.overlay default.encode config.encode = config.encode :=
  Layer.overlay_of_covers config.covers_default default.ordered_encode config.ordered_encode

theorem stack_cons (config : Config) (layers : List Json) :
    Layer.stack (config.encode :: layers) = layers.foldl Layer.overlay config.encode := by
  have alone : Layer.overlay (.object []) config.encode = config.encode :=
    Layer.overlay_nothing config.ordered_encode
  rw [Layer.stack, List.foldl_cons, alone]

theorem stack_encode (config : Config) :
    Layer.stack [default.encode, config.encode] = config.encode := by
  rw [stack_cons, List.foldl_cons, List.foldl_nil, overlay_encode]

theorem ordered_stack (configs : List Config) :
    (Layer.stack (configs.map encode)).Ordered := by
  apply Layer.ordered_stack
  intro layer listed
  obtain ⟨config, _, rfl⟩ := List.mem_map.mp listed
  exact config.ordered_encode

theorem stack_covers_default {configs : List Config} (nonempty : configs ≠ []) :
    Covers (Layer.stack (configs.map encode)) default.encode := by
  induction configs using List.reverseRecOn with
  | nil => exact absurd rfl nonempty
  | append_singleton configs config =>
    rw [List.map_append, List.map_singleton, Layer.stack_concat]
    exact config.covers_default.overlay config.ordered_encode _

theorem stack_united (configs : List Config) :
    Layer.overlay default.encode (Layer.stack (configs.map encode)) =
      Layer.stack (default.encode :: configs.map encode) := by
  cases configs with
  | nil => exact (stack_cons default []).symm
  | cons first rest =>
    -- whatever the defaults hold, the first configuration holds too: they are gone on both sides
    have covers := stack_covers_default (List.cons_ne_nil first rest)
    rw [Layer.overlay_of_covers covers default.ordered_encode (ordered_stack _)]
    rw [List.map_cons, stack_cons, stack_cons, List.foldl_cons, overlay_encode]

end Config

end Switchboard
