import DataModel.Api.Generation
import DataModel.Proofs.Except
import DataModel.Proofs.Lookup

/-!
# Orders

The API of a type has an enum of orders, with an item for every scalar field and direction: the name
of the field followed by a suffix for the direction. Reading an item takes it apart again without
looking at the enum. Field names are free to end like a suffix or to continue one another, but an
item ends in one suffix only, and what stands before it is the column.

## Main results

* `OrderBy.item_injective`: different orders have different items.
* `orderItem_eq_ok_iff`, `orderItem_eq_error_iff`: a value is read as the order whose item it is, and
  refused if it is none.
* `orderBy_inverts`: **reading orders inverts the enum of orders**.
-/

namespace DataModel

namespace Api

/-! ### Items -/

/-- The item that asks for an order. -/
def OrderBy.item (o : OrderBy) : String := o.column ++ o.direction.suffix

/-- No text ends like an order in both directions. -/
theorem withoutSuffix?_asc_append_desc (name : String) :
    Text.withoutSuffix? Direction.asc.suffix (name ++ Direction.desc.suffix) = none := by
  rw [Option.eq_none_iff_forall_ne_some]
  intro rest h
  have hlists := congrArg (·.toList.reverse) (Text.withoutSuffix?_eq_some_iff.mp h)
  simp [Direction.suffix] at hlists

/-- An item is read as the order that it asks for. -/
theorem orderOfName_item (o : OrderBy) : orderOfName o.item = .ok o := by
  obtain ⟨column, direction⟩ := o
  have hread : Text.withoutSuffix? direction.suffix (column ++ direction.suffix) = some column :=
    Text.withoutSuffix?_eq_some_iff.mpr rfl
  cases direction with
  | asc => rw [orderOfName, OrderBy.item, hread]
  | desc => rw [orderOfName, OrderBy.item, withoutSuffix?_asc_append_desc, hread]

/-- **Different orders have different items.** -/
theorem OrderBy.item_injective : Function.Injective OrderBy.item := fun o p h =>
  Except.ok.inj ((orderOfName_item o).symm.trans (h ▸ orderOfName_item p))

/-- All that reading a name can do: it is an item and read as its order, or it is none and refused. -/
theorem orderOfName_cases (name : String) :
    (∃ o : OrderBy, name = o.item ∧ orderOfName name = .ok o) ∨
      (∀ o : OrderBy, name ≠ o.item) ∧ orderOfName name = .error (.invalidOrder name) := by
  by_cases hitem : ∃ o : OrderBy, name = o.item
  · obtain ⟨o, rfl⟩ := hitem
    exact .inl ⟨o, rfl, orderOfName_item o⟩
  · have hnone : ∀ direction : Direction, Text.withoutSuffix? direction.suffix name = none :=
      fun direction => Option.eq_none_iff_forall_ne_some.mpr fun column h =>
        hitem ⟨⟨column, direction⟩, Text.withoutSuffix?_eq_some_iff.mp h⟩
    exact .inr ⟨fun o ho => hitem ⟨o, ho⟩, by rw [orderOfName, hnone, hnone]⟩

/-! ### Values -/

/-- The value is the item of the order, as an enum literal or as a string. -/
inductive NamesOrder : Value → OrderBy → Prop
  | enum (o : OrderBy) : NamesOrder (.enum o.item) o
  | string (o : OrderBy) : NamesOrder (.string o.item) o

/-- How a value that names no order is shown: a text as it is, other values as they are written. -/
def shownOrder : Value → String
  | .enum name => name
  | .string name => name
  | v => v.display

/-- All that reading a value can do. -/
theorem orderItem_cases (v : Value) :
    (∃ o, NamesOrder v o ∧ orderItem v = .ok o) ∨
      (∀ o, ¬ NamesOrder v o) ∧ orderItem v = .error (.invalidOrder (shownOrder v)) := by
  cases v with
  | enum name =>
      rcases orderOfName_cases name with ⟨o, rfl, hread⟩ | ⟨hnone, hread⟩
      · exact .inl ⟨o, .enum o, hread⟩
      · exact .inr ⟨fun o => by rintro ⟨⟩; exact hnone o rfl, hread⟩
  | string name =>
      rcases orderOfName_cases name with ⟨o, rfl, hread⟩ | ⟨hnone, hread⟩
      · exact .inl ⟨o, .string o, hread⟩
      · exact .inr ⟨fun o => by rintro ⟨⟩; exact hnone o rfl, hread⟩
  | _ => exact .inr ⟨nofun, rfl⟩

/-- A value that names an order is read as it. -/
theorem NamesOrder.orderItem_eq {v : Value} {o : OrderBy} (h : NamesOrder v o) :
    orderItem v = .ok o := by
  cases h with
  | enum => exact orderOfName_item o
  | string => exact orderOfName_item o

/-- A value is read as the order that it names. -/
theorem orderItem_eq_ok_iff {v : Value} {o : OrderBy} : orderItem v = .ok o ↔ NamesOrder v o := by
  refine ⟨fun h => ?_, NamesOrder.orderItem_eq⟩
  rcases orderItem_cases v with ⟨p, hp, hread⟩ | ⟨-, hread⟩
  · exact Except.ok.inj (hread.symm.trans h) ▸ hp
  · cases hread.symm.trans h

/-- A value is refused when it names no order. -/
theorem orderItem_eq_error_iff {v : Value} {e : InputError} :
    orderItem v = .error e ↔ (∀ o, ¬ NamesOrder v o) ∧ e = .invalidOrder (shownOrder v) := by
  rcases orderItem_cases v with ⟨o, ho, hread⟩ | ⟨hnone, hread⟩
  · rw [hread]
    exact iff_of_false nofun fun h => h.1 o ho
  · rw [hread, Except.error.injEq, eq_comm, and_iff_right hnone]

/-! ### Lists of values -/

/-- A list is read when each of its values names an order, and then as these orders. -/
theorem orderBy_list_eq_ok_iff {values : List Value} {orders : List OrderBy} :
    orderBy (.list values) = .ok orders ↔ List.Forall₂ NamesOrder values orders := by
  simp only [orderBy, List.mapM_eq_ok_iff, orderItem_eq_ok_iff]

/-- A list is refused as a whole for the first value that names no order. -/
theorem orderBy_list_eq_error {values : List Value} (h : ∃ v ∈ values, ∀ o, ¬ NamesOrder v o) :
    ∃ before v after, values = before ++ v :: after ∧ (∀ w ∈ before, ∃ o, NamesOrder w o) ∧
      (∀ o, ¬ NamesOrder v o) ∧ orderBy (.list values) = .error (.invalidOrder (shownOrder v)) := by
  cases hread : orderBy (.list values) with
  | ok orders =>
      obtain ⟨v, hv, hnone⟩ := h
      obtain ⟨o, ho⟩ := List.exists_of_mapM_eq_ok hread hv
      exact absurd (orderItem_eq_ok_iff.mp ho) (hnone o)
  | error e =>
      obtain ⟨before, v, after, rfl, hbefore, hv⟩ := List.mapM_eq_error_iff.mp hread
      obtain ⟨hnone, rfl⟩ := orderItem_eq_error_iff.mp hv
      refine ⟨before, v, after, rfl, fun w hw => ?_, hnone, rfl⟩
      obtain ⟨o, ho⟩ := hbefore w hw
      exact ⟨o, orderItem_eq_ok_iff.mp ho⟩

/-- A single value counts as a list of one. Null stands for no order. -/
theorem orderBy_single {v : Value} (hnull : v ≠ .null) (hlist : ∀ items, v ≠ .list items) :
    orderBy v = orderBy (.list [v]) := by
  cases v with
  | null => exact absurd rfl hnull
  | list items => exact absurd rfl (hlist items)
  | _ => simp [orderBy, List.mapM_cons]

/-! ### The enum of orders -/

/-- The orders that a type offers: by every scalar field, in both directions. -/
def ordersOf (t : ObjectType) : List OrderBy :=
  t.scalarFields.flatMap fun f => [⟨f.name, .asc⟩, ⟨f.name, .desc⟩]

/-- A type offers the orders by its scalar fields. -/
theorem mem_ordersOf_iff {t : ObjectType} {o : OrderBy} :
    o ∈ ordersOf t ↔ ∃ f ∈ t.scalarFields, o.column = f.name := by
  obtain ⟨column, direction⟩ := o
  cases direction <;> simp [ordersOf]

/-- The items of the enum ask for the orders that the type offers. -/
theorem orderItems_eq (t : ObjectType) : orderItems t = (ordersOf t).map OrderBy.item := by
  rw [orderItems, ordersOf, List.map_flatMap]
  rfl

/-- Where field names differ, no order is offered twice. -/
theorem ordersOf_nodup {t : ObjectType} (hnames : (t.fields.map (·.name)).Nodup) :
    (ordersOf t).Nodup := by
  have hscalars : t.scalarFields.Pairwise fun f g => f.name ≠ g.name :=
    List.pairwise_map.mp ((List.filter_sublist.map _).nodup hnames)
  rw [ordersOf, List.nodup_flatMap]
  refine ⟨fun f _ => by simp, hscalars.imp fun {f g} hne o hf hg => hne ?_⟩
  have hcolumn : ∀ name : String, o ∈ [(⟨name, .asc⟩ : OrderBy), ⟨name, .desc⟩] → o.column = name := by
    simp +contextual [or_imp]
  rw [← hcolumn _ hf, ← hcolumn _ hg]

/-- Names that differ from each other are all kept. -/
theorem distinctNames_eq_self {names : List String} (h : names.Nodup) :
    distinctNames names = names := by
  have hwalk : ∀ (rest done : List String), (done ++ rest).Nodup → rest.foldl
      (fun done name => if done.contains name then done else done ++ [name]) done = done ++ rest := by
    intro rest
    induction rest with
    | nil => simp
    | cons name rest ih =>
        intro done hnodup
        have hnew : done.contains name = false := by
          have hdisjoint := (List.nodup_append.mp hnodup).2.2
          simpa using fun hmem => hdisjoint name hmem name List.mem_cons_self rfl
        have hnext : (done ++ [name] ++ rest).Nodup := by simpa using hnodup
        rw [List.foldl_cons, hnew, if_neg Bool.false_ne_true, ih _ hnext, List.append_assoc]
        rfl
  exact hwalk names [] h

/-- **Reading orders inverts the enum of orders.** On a type whose field names differ,

* the items of the enum differ, and the API has all of them in an enum exactly when there is a scalar
  field;
* a list of items, each an enum literal or a string, is read as the columns and directions that they
  were made from, in their order;
* a single value, unless it is null, is read as the list of it alone;
* a list with a value that ends in neither suffix, or that is neither an enum literal nor a string, is
  refused as a whole, for the first such value. -/
theorem orderBy_inverts {t : ObjectType} (hnames : (t.fields.map (·.name)).Nodup) :
    ((orderItems t).Nodup ∧ ∀ type, orderInput? t = some type ↔
      t.scalarFields ≠ [] ∧ type = .enum (orderInputName t) (orderItems t)) ∧
    (∀ picks : List (Field × Direction), (∀ p ∈ picks, p.1 ∈ t.scalarFields) →
      (∀ p ∈ picks, p.1.name ++ p.2.suffix ∈ orderItems t) ∧
      ∀ values, List.Forall₂ (fun p v =>
          v = .enum (p.1.name ++ p.2.suffix) ∨ v = .string (p.1.name ++ p.2.suffix)) picks values →
        orderBy (.list values) = .ok (picks.map fun p => ⟨p.1.name, p.2⟩)) ∧
    (∀ v, v ≠ .null → (∀ items, v ≠ .list items) → orderBy v = orderBy (.list [v])) ∧
    ∀ values, (∃ v ∈ values, ∀ o, ¬ NamesOrder v o) →
      ∃ before v after, values = before ++ v :: after ∧ (∀ w ∈ before, ∃ o, NamesOrder w o) ∧
        (∀ o, ¬ NamesOrder v o) ∧
        orderBy (.list values) = .error (.invalidOrder (shownOrder v)) := by
  have hitems : (orderItems t).Nodup := by
    rw [orderItems_eq, List.nodup_map_iff OrderBy.item_injective]
    exact ordersOf_nodup hnames
  refine ⟨⟨hitems, fun type => ?enum⟩, fun picks hpicks => ⟨fun p hp => ?item, fun values h => ?read⟩,
    fun v => orderBy_single, fun values => orderBy_list_eq_error⟩
  case enum =>
    rw [orderInput?, distinctNames_eq_self hitems]
    cases t.scalarFields <;> simp [eq_comm]
  case item =>
    rw [orderItems_eq]
    exact List.mem_map.mpr ⟨⟨p.1.name, p.2⟩, mem_ordersOf_iff.mpr ⟨p.1, hpicks p hp, rfl⟩, rfl⟩
  case read =>
    refine orderBy_list_eq_ok_iff.mpr (List.forall₂_map_right_iff.mpr (h.flip.imp ?_))
    rintro v p (rfl | rfl)
    · exact .enum ⟨p.1.name, p.2⟩
    · exact .string ⟨p.1.name, p.2⟩

end Api

/-- A ranking with fields whose names end like directions and continue each other. -/
def ObjectType.ranking : ObjectType :=
  .of "Ranking"
    [ { name := "id", typeName := "ID", kind := .scalar .id, required := true },
      { name := "rank", typeName := "Int", kind := .scalar .int },
      { name := "rank_ASC", typeName := "Int", kind := .scalar .int },
      { name := "rank_ASC_DESC", typeName := "String", kind := .scalar .string },
      { name := "tier", typeName := "Tier", kind := .enum } ] {}

/-- No two orders of rankings share an item, although one of the items is the name of a field. -/
theorem Api.ranking_orders_invert :
    (ObjectType.ranking.fields.map (·.name)).Nodup ∧ (orderItems .ranking).Nodup ∧
      orderBy (.list [.enum "rank_ASC_DESC", .string "rank_ASC_ASC", .enum "rank_ASC"]) =
        .ok [⟨"rank_ASC", .desc⟩, ⟨"rank_ASC", .asc⟩, ⟨"rank", .asc⟩] := by
  have hnames : (ObjectType.ranking.fields.map (·.name)).Nodup := by decide
  have hinverts := orderBy_inverts hnames
  refine ⟨hnames, hinverts.1.1, ?_⟩
  exact (hinverts.2.1
    [(ObjectType.ranking.fields[2], .desc), (ObjectType.ranking.fields[2], .asc),
      (ObjectType.ranking.fields[1], .asc)] (by decide)).2 _
    (.cons (.inl rfl) (.cons (.inr rfl) (.cons (.inl rfl) .nil)))

end DataModel
