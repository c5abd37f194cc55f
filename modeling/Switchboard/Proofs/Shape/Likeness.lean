import Switchboard.Shape.Record

set_option autoImplicit false

namespace Switchboard.Shape

section

variable {κ : Type} (Like : κ → Json → Json → Prop)

/-- Under each of the keys are two like values or none. -/
structure MembersAlike (wire : List (String × κ)) (get get' : String → Option Json) : Prop where
  absent : ∀ key kind, (key, kind) ∈ wire → (get key = none ↔ get' key = none)
  each : ∀ key kind value value', (key, kind) ∈ wire → get key = some value →
    get' key = some value' → Like kind value value'

/-- As many items, and the first ones are like each other, as far as there are kinds for them. -/
structure ItemsAlike (kinds : List κ) (items items' : List Json) : Prop where
  length : items.length = items'.length
  each : ∀ (i : Nat) kind value value', kinds[i]? = some kind → items[i]? = some value →
    items'[i]? = some value' → Like kind value value'

/-- Two objects with like members, two arrays with like items, or one value that is neither. -/
inductive RecordsAlike (wire : List (String × κ)) : Json → Json → Prop
  | members {held held' : List (String × Json)}
      (alike : MembersAlike Like wire (fun key => Json.lookup key held)
        fun key => Json.lookup key held') :
      RecordsAlike wire (.object held) (.object held')
  | items {items items' : List Json} (alike : ItemsAlike Like (wire.map Prod.snd) items items') :
      RecordsAlike wire (.array items) (.array items')
  | neither {value : Json} (no_object : ∀ held, value ≠ .object held)
      (no_array : ∀ items, value ≠ .array items) : RecordsAlike wire value value

end

section

variable {κ : Type} {Like : κ → Json → Json → Prop} {wire wire' : List (String × κ)}

theorem MembersAlike.of_append {get get' : String → Option Json}
    (alike : MembersAlike Like (wire ++ wire') get get') :
    MembersAlike Like wire get get' ∧ MembersAlike Like wire' get get' :=
  ⟨⟨fun key kind listed => alike.absent key kind (List.mem_append_left wire' listed),
      fun key kind value value' listed =>
        alike.each key kind value value' (List.mem_append_left wire' listed)⟩,
    ⟨fun key kind listed => alike.absent key kind (List.mem_append_right wire listed),
      fun key kind value value' listed =>
        alike.each key kind value value' (List.mem_append_right wire listed)⟩⟩

theorem ItemsAlike.nil {kinds : List κ} : ItemsAlike Like kinds [] [] :=
  ⟨rfl, fun _ _ _ _ _ found => nomatch found⟩

theorem ItemsAlike.of_cons {kind : κ} {kinds : List κ} {item item' : Json}
    {items items' : List Json}
    (alike : ItemsAlike Like (kind :: kinds) (item :: items) (item' :: items')) :
    Like kind item item' ∧ ItemsAlike Like kinds items items' := by
  refine ⟨alike.each 0 kind item item' rfl rfl rfl, ?_, fun i => ?_⟩
  · exact Nat.succ.inj alike.length
  · exact alike.each (i + 1)

theorem ItemsAlike.cases {kinds : List κ} {items items' : List Json}
    (alike : ItemsAlike Like kinds items items') :
    items = [] ∧ items' = [] ∨
      ∃ first rest first' rest', items = first :: rest ∧ items' = first' :: rest' := by
  have length := alike.length
  cases items with
  | nil => exact .inl ⟨rfl, List.eq_nil_of_length_eq_zero length.symm⟩
  | cons first rest =>
    obtain ⟨first', rest', rfl⟩ := List.exists_cons_of_length_eq_add_one length.symm
    exact .inr ⟨first, rest, first', rest', rfl, rfl⟩

end

/-- Two readings of items fail in the same way, or agree on the value and leave like items. -/
inductive Outcome {κ α : Type} (Like : κ → Json → Json → Prop) (more : List κ) :
    Except ArrayFault (α × Nat × List Json) → Except ArrayFault (α × Nat × List Json) → Prop
  | failed (fault : ArrayFault) : Outcome Like more (.error fault) (.error fault)
  | read (value : α) (position : Nat) {rest rest' : List Json}
      (alike : ItemsAlike Like more rest rest') :
      Outcome Like more (.ok (value, position, rest)) (.ok (value, position, rest'))

/-- Two descriptions of the same fields cannot tell like members apart, nor like items. They take as
many items as there are fields. -/
structure Fields.Blind {κ α : Type} (Like : κ → Json → Json → Prop) (fields fields' : Fields α)
    (wire : List (String × κ)) : Prop where
  count : fields.count = fields'.count
  ofMembers : ∀ {get get' : String → Option Json}, MembersAlike Like wire get get' →
    fields.fromMembers get = fields'.fromMembers get'
  ofItems : ∀ (position : Nat) {more : List κ} {items items' : List Json},
    ItemsAlike Like (wire.map Prod.snd ++ more) items items' →
    Outcome Like more (fields.fromItems position items) (fields'.fromItems position items')

namespace Fields.Blind

variable {κ α β : Type} {Like : κ → Json → Json → Prop} {wire wire' : List (String × κ)}

theorem seq {f f' : Fields (α → β)} {fields fields' : Fields α} (function : Blind Like f f' wire)
    (argument : Blind Like fields fields' wire') :
    Blind Like (f <*> fields) (f' <*> fields') (wire ++ wire') where
  count := by
    change f.count + fields.count = f'.count + fields'.count
    rw [function.count, argument.count]
  ofMembers alike := by
    obtain ⟨first, second⟩ := alike.of_append
    change combine _ _ = combine _ _
    rw [function.ofMembers first, argument.ofMembers second]
  ofItems position more items items' alike := by
    rw [List.map_append, List.append_assoc] at alike
    have first := function.ofItems position alike
    change Outcome Like more
      (f.fromItems position items >>= fun taken =>
        fields.fromItems taken.2.1 taken.2.2 >>= fun others =>
          return (taken.1 others.1, others.2.1, others.2.2))
      (f'.fromItems position items' >>= fun taken =>
        fields'.fromItems taken.2.1 taken.2.2 >>= fun others =>
          return (taken.1 others.1, others.2.1, others.2.2))
    generalize f.fromItems position items = taken at first ⊢
    generalize f'.fromItems position items' = taken' at first ⊢
    cases first with
    | failed fault => exact .failed fault
    | @read g middle rest rest' left =>
      have second := argument.ofItems middle left
      change Outcome Like more
        (fields.fromItems middle rest >>= fun others => return (g others.1, others.2.1, others.2.2))
        (fields'.fromItems middle rest' >>= fun others =>
          return (g others.1, others.2.1, others.2.2))
      generalize fields.fromItems middle rest = others at second ⊢
      generalize fields'.fromItems middle rest' = others' at second ⊢
      cases second with
      | failed fault => exact .failed fault
      | read value final left => exact .read (g value) final left

theorem map (g : α → β) {fields fields' : Fields α} (argument : Blind Like fields fields' wire) :
    Blind Like (g <$> fields) (g <$> fields') wire := by
  have nothing : Blind Like (const g) (const g) [] :=
    ⟨rfl, fun _ => rfl, fun position _ _ _ alike => .read g position alike⟩
  exact nothing.seq argument

variable {key : String} {kind : κ} {decode decode' : Decoder α}

theorem single {absentMember : Except Problem α} {absentItem : Option α}
    (same : ∀ value value', Like kind value value' → decode value = decode' value') :
    Blind Like (single key decode absentMember absentItem)
      (single key decode' absentMember absentItem) [(key, kind)] where
  count := rfl
  ofMembers {get get'} alike := by
    have absent := alike.absent key kind List.mem_cons_self
    have each := alike.each key kind
    simp only [Fields.single]
    cases found : get key with
    | none => rw [absent.mp found]
    | some value =>
      cases found' : get' key with
      | none => exact absurd (found.symm.trans (absent.mpr found')) nofun
      | some value' =>
        dsimp only
        rw [same value value' (each value value' List.mem_cons_self found found')]
  ofItems position more items items' alike := by
    rcases alike.cases with ⟨rfl, rfl⟩ | ⟨item, rest, item', rest', rfl, rfl⟩
    · cases absentItem with
      | none => exact .failed (.short position)
      | some value => exact .read value (position + 1) .nil
    · obtain ⟨like, left⟩ := alike.of_cons
      simp only [Fields.single, same item item' like]
      cases decode' item' with
      | ok value => exact .read value (position + 1) left
      | error fault => exact .failed _

theorem required (same : ∀ value value', Like kind value value' → decode value = decode' value') :
    Blind Like (required key decode) (required key decode') [(key, kind)] :=
  single same

theorem defaulted {default : α}
    (same : ∀ value value', Like kind value value' → decode value = decode' value') :
    Blind Like (defaulted key default decode) (defaulted key default decode') [(key, kind)] :=
  single same

/-- A field that may be `null` is read in the same way if only `null` is like `null`. -/
theorem optional (same : ∀ value value', Like kind value value' → decode value = decode' value')
    (unset : ∀ value value', Like kind value value' → (value = .null ↔ value' = .null)) :
    Blind Like (optional key decode) (optional key decode') [(key, kind)] := by
  apply single
  intro value value' like
  by_cases null : value = .null
  · rw [null, (unset value value' like).mp null]
    rfl
  · have set : value' ≠ .null := mt (unset value value' like).mpr null
    rw [nullable.eq_2 decode value null, nullable.eq_2 decode' value' set, same value value' like]

end Fields.Blind

variable {κ α : Type} {Like : κ → Json → Json → Prop} {wire : List (String × κ)}

theorem recordOfItems_alike {medium : Medium} {title : String} {fields fields' : Fields α}
    (blind : fields.Blind Like fields' wire) {items items' : List Json}
    (alike : ItemsAlike Like (wire.map Prod.snd) items items') :
    recordOfItems medium title fields items = recordOfItems medium title fields' items' := by
  rw [← List.append_nil (wire.map Prod.snd)] at alike
  have outcome := blind.ofItems 0 alike
  unfold recordOfItems
  rw [blind.count, alike.length]
  generalize fields.fromItems 0 items = taken at outcome ⊢
  generalize fields'.fromItems 0 items' = taken' at outcome ⊢
  cases outcome with
  | failed fault => rfl
  | read value used left =>
    rcases left.cases with ⟨rfl, rfl⟩ | ⟨_, _, _, _, rfl, rfl⟩
    · rfl
    · rfl

/-- Records with like fields are read as the same record, or fail in the same way. -/
theorem record_alike {medium : Medium} {title : String} {fields fields' : Fields α}
    (blind : fields.Blind Like fields' wire) {value value' : Json}
    (alike : RecordsAlike Like wire value value') :
    record medium title fields value = record medium title fields' value' := by
  cases alike with
  | members alike => exact congrArg (Except.mapError Problem.fault) (blind.ofMembers alike)
  | items alike => exact recordOfItems_alike blind alike
  | neither no_object no_array =>
    cases value with
    | object held => exact absurd rfl (no_object held)
    | array items => exact absurd rfl (no_array items)
    | _ => rfl

theorem itemsFrom_alike {decode decode' : Decoder α} {items items' : List Json}
    (length : items.length = items'.length)
    (each : ∀ (i : Nat) value value', items[i]? = some value → items'[i]? = some value' →
      decode value = decode' value') (position : Nat) :
    itemsFrom decode position items = itemsFrom decode' position items' := by
  induction items generalizing items' position with
  | nil => rw [List.eq_nil_of_length_eq_zero length.symm]; rfl
  | cons item items ih =>
    obtain ⟨item', items', rfl⟩ := List.exists_cons_of_length_eq_add_one length.symm
    rw [itemsFrom, itemsFrom, each 0 item item' rfl rfl,
      ih (Nat.succ.inj length) (fun i => each (i + 1))]

end Switchboard.Shape
