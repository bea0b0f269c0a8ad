import DataModel.Proofs.Sql.Junctions

/-!
# The names of tables and constraints in a script

Tables are named in two ways, by the plural of a type in snake case and by a relation, and the name
of a foreign key constraint is made of a table and a column. Nothing compares these names with each
other. Two types share a table name when their plurals have the same words, as those of `BookReview`
and `book_review` have; a relation may be named like the table of a type; and where a table ends and
a column begins cannot be told from the underscores of a constraint name.

What is compared elsewhere suffices for the rest: relations have different names, and so have the
reference columns of one type.

## Main results

* `constraintName_foreign`: small letters leave the column of a constraint name as it is.
* `createdTables_eq`, `constraintNames_eq`: the names in a script, in terms of types and relations.
* `scriptNames_nodup_iff`: **the script of a resolved document creates tables of different names
  exactly when types and relations give different ones, and its foreign keys have different names
  exactly when the columns that hold them can be told apart.**
-/

namespace List

/-- What some entries of a list contribute one by one. -/
theorem flatMap_ite_singleton {α β : Type} {p : α → Prop} [DecidablePred p] {f : α → β}
    {l : List α} : l.flatMap (fun a => if p a then [f a] else []) = (l.filter (p ·)).map f := by
  induction l with
  | nil => rfl
  | cons a l ih => by_cases h : p a <;> simp [h, ih]

end List

namespace DataModel

namespace Sql

/-! ### What bears a name -/

/-- The table that the statement creates. -/
def Statement.createdTable? : Statement → Option String
  | .createTable table _ => some table
  | .addForeignKey _ _ => none

/-- What the table of a foreign key stands for: an object type, or a relation that has a junction
table. -/
inductive KeyHolder where
  | objectType (name : String)
  | junction (name : String)
  deriving DecidableEq

namespace KeyHolder

/-- The table that stands for the holder. -/
def table : KeyHolder → String
  | objectType name => tableName name
  | junction name => name

/-- What the constraint names of the foreign keys of the holder begin with: the table, which is in
small letters where it stands for a type and is put into small letters elsewhere. -/
def opening : KeyHolder → String
  | objectType name => tableName name ++ "_"
  | junction name => Text.lowercase (name ++ "_")

/-- The opening of a holder is its table in small letters. -/
theorem lowercase_table (holder : KeyHolder) :
    Text.lowercase (holder.table ++ "_") = holder.opening := by
  cases holder with
  | junction name => rfl
  | objectType name =>
      refine Text.lowercase_eq_self fun c hc => ?_
      rw [String.toList_append] at hc
      rcases List.mem_append.mp hc with hc | hc
      · exact isSmall_of_mem_tableName hc
      · obtain rfl := List.mem_singleton.mp hc
        decide

end KeyHolder

/-- The sides of a relation that a script has a foreign key for. -/
def keySides (r : Relation) : List Side :=
  if r.cardinality = .manyToMany then Side.both else Side.both.filter r.ownsReference

/-- What holds the foreign key of a side: the relation where it has a junction table, the type of
the side elsewhere. -/
def keyHolder (r : Relation) (side : Side) : KeyHolder :=
  if r.cardinality = .manyToMany then .junction r.name else .objectType (r.onSide side).objectType

/-- The column of the foreign key of a side. -/
def keyColumn (r : Relation) (side : Side) : String :=
  if r.cardinality = .manyToMany then r.junctionColumn side else r.referenceColumn side

/-- What the constraint name of the foreign key of a side begins with: its table and its column. -/
def keyStem (r : Relation) (side : Side) : String := (keyHolder r side).opening ++ keyColumn r side

/-- The types and relations of a document give different table names. -/
structure TablesApart (d : Document) (set : RelationSet) : Prop where
  types : d.objectTypes.Pairwise fun t u => ¬ Text.SameWords (pluralize t.name) (pluralize u.name)
  junctions : ∀ r ∈ set.relations, r.cardinality = .manyToMany → ∀ t ∈ d.objectTypes,
    r.name ≠ tableName t.name

/-- The columns that hold the foreign keys of a set of relations can be told apart: the two of a
junction table are named after different words, and those of different holders do not look alike
with the table before them. -/
structure KeysApart (set : RelationSet) : Prop where
  junctions : ∀ r ∈ set.relations, r.cardinality = .manyToMany →
    ¬ Text.SameWords (r.sideLabel .a) (r.sideLabel .b)
  holders : ∀ r ∈ set.relations, ∀ s ∈ set.relations, ∀ side ∈ keySides r, ∀ side' ∈ keySides s,
    keyHolder r side ≠ keyHolder s side' → keyStem r side ≠ keyStem s side'

variable {d : Document} {set : RelationSet}

/-! ### The names of tables -/

/-- A relation creates a table when it is many-to-many, and none otherwise. -/
theorem createdTables_of_relation {r : Relation} {ss : List Statement}
    (h : relationStatements d r = .ok ss) :
    ss.filterMap (·.createdTable?) = if r.cardinality = .manyToMany then [r.name] else [] := by
  rcases relationStatements_cases h with ⟨hcard, s, hs, rfl⟩ | ⟨hcard, hkeys⟩
  · obtain ⟨-, -, ⟨lines, rfl⟩, -⟩ := of_junctionOf_eq_ok hs
    rw [if_pos hcard]
    rfl
  · rw [if_neg hcard, List.filterMap_eq_nil_iff]
    intro s hs
    obtain ⟨side, -, hside⟩ := List.exists_mem_of_mapM_eq_ok hkeys hs
    obtain ⟨key, -, hs⟩ := Except.bind_eq_ok_iff.mp hside
    rw [← Except.pure_eq_ok_iff.mp hs]
    rfl

/-- A resolved document creates the tables of its types, and then those of its many-to-many
relations. -/
theorem createdTables_eq {script : List Statement} (h : statements d set = .ok script) :
    script.filterMap (·.createdTable?) = d.objectTypes.map (fun t => tableName t.name) ++
      (set.relations.filter (·.cardinality = .manyToMany)).map (·.name) := by
  obtain ⟨tables, others, htables, hothers, rfl⟩ := statements_eq_ok_iff.mp h
  have htypes : tables.filterMap (·.createdTable?) = d.objectTypes.filterMap fun t =>
      some (tableName t.name) :=
    List.filterMap_eq_of_mapM_eq_ok htables fun t _ s hs => by
      obtain ⟨_, _, _, -, -, -, ⟨lines, rfl⟩, -⟩ := of_tableOf_eq_ok hs
      rfl
  have hjunctions := List.map_eq_of_mapM_eq_ok hothers fun r _ ss hss =>
    createdTables_of_relation hss
  rw [List.filterMap_append, htypes, List.filterMap_flatten, hjunctions, List.filterMap_eq_map',
    ← List.flatMap_def, List.flatMap_ite_singleton]

/-- **The tables of a script** have different names exactly when the types and relations give
different ones. -/
theorem createdTables_nodup_iff (hset : set.Resolves d) {script : List Statement}
    (h : statements d set = .ok script) :
    (script.filterMap (·.createdTable?)).Nodup ↔ TablesApart d set := by
  have hnames : ((set.relations.filter (·.cardinality = .manyToMany)).map (·.name)).Nodup :=
    hset.collected.names_nodup.sublist (List.filter_sublist.map _)
  have htypes : (d.objectTypes.map fun t => tableName t.name).Nodup ↔
      d.objectTypes.Pairwise fun t u =>
        ¬ Text.SameWords (pluralize t.name) (pluralize u.name) := by
    simp only [List.Nodup, List.pairwise_map, ne_eq, tableName_eq_iff]
  rw [createdTables_eq h, List.nodup_append, htypes]
  constructor
  · rintro ⟨htypes, -, happart⟩
    refine ⟨htypes, fun r hr hcard t ht heq => ?_⟩
    exact happart _ (List.mem_map_of_mem ht) _
      (List.mem_map_of_mem (List.mem_filter.mpr ⟨hr, decide_eq_true hcard⟩)) heq.symm
  · rintro ⟨htypes, hjunctions⟩
    refine ⟨htypes, hnames, ?_⟩
    intro table htable name hname heq
    obtain ⟨t, ht, rfl⟩ := List.mem_map.mp htable
    obtain ⟨r, hr, rfl⟩ := List.mem_map.mp hname
    obtain ⟨hr, hcard⟩ := List.mem_filter.mp hr
    exact hjunctions r hr (of_decide_eq_true hcard) t ht heq.symm

/-! ### The names of constraints -/

/-- The columns of foreign keys are in small letters. -/
theorem isSmall_of_mem_keyColumn {r : Relation} {side : Side} {c : Char}
    (hc : c ∈ (keyColumn r side).toList) : Text.IsSmall c := by
  unfold keyColumn at hc
  split at hc
  · rw [Relation.junctionColumn_eq] at hc
    exact isSmall_of_mem_referenceColumn hc
  · exact isSmall_of_mem_referenceColumn hc

/-- **The name of a foreign key constraint**: small letters leave the column and the ending as they
are. -/
theorem constraintName_foreign {table column : String}
    (hcolumn : ∀ c ∈ column.toList, Text.IsSmall c) :
    constraintName table [column] "foreign" =
      Text.lowercase (table ++ "_") ++ column ++ "_foreign" := by
  have hending : ∀ c ∈ "_foreign".toList, Text.IsSmall c :=
    Text.forall_mem_of_all (by decide +kernel)
  have hsmall : ∀ c ∈ (column ++ "_foreign").toList, Text.IsSmall c := by
    rw [String.toList_append]
    exact List.forall_mem_append.mpr ⟨hcolumn, hending⟩
  have hjoined : table ++ "_" ++ "_".intercalate [column] ++ "_" ++ "foreign" =
      table ++ "_" ++ (column ++ "_foreign") := by
    simp [String.append_assoc]
  rw [constraintName, hjoined, Text.lowercase_append_underscore hsmall, String.append_assoc]

/-- What a foreign key is named. -/
theorem name_of_foreignKeyTo {table column targetType : String} {k : ForeignKey}
    (h : foreignKeyTo d table column targetType = .ok k) :
    k.name = constraintName table [column] "foreign" := by
  obtain ⟨target, key, -, -, rfl⟩ := foreignKeyTo_eq_ok_iff.mp h
  rfl

/-- The foreign keys among the statements of a relation are named by their stems, side by side. -/
theorem constraintNames_of_relation {r : Relation} {ss : List Statement}
    (h : relationStatements d r = .ok ss) :
    (ss.flatMap (·.foreignKeys)).map (·.2.name) =
      (keySides r).map fun side => keyStem r side ++ "_foreign" := by
  have hstem : ∀ side, keyStem r side ++ "_foreign" =
      constraintName (keyHolder r side).table [keyColumn r side] "foreign" := fun side => by
    rw [constraintName_foreign fun c hc => isSmall_of_mem_keyColumn hc, keyStem,
      (keyHolder r side).lowercase_table]
  rcases relationStatements_cases h with ⟨hcard, s, hs, rfl⟩ | ⟨hcard, hss⟩
  · obtain ⟨keys, hkeys, -, -, hforeign⟩ := of_junctionOf_eq_ok hs
    have hnames : keys.map (·.name) = Side.both.map fun side => keyStem r side ++ "_foreign" :=
      List.map_eq_of_mapM_eq_ok hkeys fun side _ k hk => by
        simp only [name_of_foreignKeyTo hk, hstem, keyHolder, keyColumn, if_pos hcard]
        rfl
    rw [keySides, if_pos hcard, ← hnames]
    simp [hforeign, Function.comp_def]
  · have hnames : ss.map (fun s => s.foreignKeys.map (·.2.name)) =
        (Side.both.filter r.ownsReference).map fun side => [keyStem r side ++ "_foreign"] :=
      List.map_eq_of_mapM_eq_ok hss fun side _ s hs => by
        obtain ⟨key, hkey, hs⟩ := Except.bind_eq_ok_iff.mp hs
        obtain rfl := Except.pure_eq_ok_iff.mp hs
        simp only [hstem, keyHolder, keyColumn, if_neg hcard]
        exact congrArg ([·]) (name_of_foreignKeyTo hkey)
    rw [keySides, if_neg hcard, List.map_flatMap, List.flatMap_def, hnames, ← List.flatMap_def,
      List.map_eq_flatMap]

/-- The sides of the relations of a set that a script has a foreign key for. -/
def keyPlaces (set : RelationSet) : List (Relation × Side) :=
  set.relations.flatMap fun r => (keySides r).map (r, ·)

/-- The places of foreign keys are sides of relations. -/
theorem mem_keyPlaces_iff {r : Relation} {side : Side} :
    (r, side) ∈ keyPlaces set ↔ r ∈ set.relations ∧ side ∈ keySides r := by
  simp [keyPlaces]

/-- A script has the foreign keys of the relations, in order. -/
theorem constraintNames_eq {script : List Statement} (h : statements d set = .ok script) :
    (script.flatMap (·.foreignKeys)).map (·.2.name) =
      (keyPlaces set).map fun place => keyStem place.1 place.2 ++ "_foreign" := by
  obtain ⟨tables, others, htables, hothers, rfl⟩ := statements_eq_ok_iff.mp h
  have hplain : tables.flatMap (·.foreignKeys) = [] := by
    rw [List.flatMap_eq_nil_iff]
    intro s hs
    obtain ⟨t, -, ht⟩ := List.exists_mem_of_mapM_eq_ok htables hs
    exact foreignKeys_of_tableOf ht
  have hrelations := List.map_eq_of_mapM_eq_ok hothers fun r _ ss hss =>
    constraintNames_of_relation hss
  calc ((tables ++ others.flatten).flatMap (·.foreignKeys)).map (·.2.name)
      = others.flatMap fun ss => (ss.flatMap (·.foreignKeys)).map (·.2.name) := by
        rw [List.flatMap_append, hplain, List.nil_append, List.flatten_eq_flatMap,
          List.flatMap_assoc, List.map_flatMap]
        rfl
    _ = set.relations.flatMap fun r =>
          (keySides r).map fun side => keyStem r side ++ "_foreign" := by
        rw [List.flatMap_def, hrelations, List.flatMap_def]
    _ = (keyPlaces set).map fun place => keyStem place.1 place.2 ++ "_foreign" := by
        simp [keyPlaces, List.map_flatMap, Function.comp_def]

/-- No side has two foreign keys. -/
theorem keyPlaces_nodup (hset : set.Resolves d) : (keyPlaces set).Nodup := by
  refine List.nodup_flatMap.mpr ⟨fun r _ => ?_, ?_⟩
  · have hboth : Side.both.Nodup := by decide
    have hsides : (keySides r).Nodup := by
      unfold keySides
      split
      · exact hboth
      · exact hboth.filter _
    exact hsides.map fun _ _ heq => (Prod.mk.inj heq).2
  · refine (List.Nodup.of_map _ hset.collected.names_nodup).imp fun {r s} hne => ?_
    intro place hr hs
    obtain ⟨_, -, rfl⟩ := List.mem_map.mp hr
    obtain ⟨_, -, heq⟩ := List.mem_map.mp hs
    exact hne (Prod.mk.inj heq).1.symm

/-- The field of a side that owns a reference column has that column. -/
theorem hasColumn_of_owns (hset : set.Resolves d) {r : Relation} {side : Side} {p : Place}
    (hr : r ∈ set.relations) (hp : p ∈ d.relationFields) (hside : r.onSide side = p.toEnd)
    (howns : r.ownsReference side = true) : d.HasColumn p.1 p.2 (r.referenceColumn side) := by
  have hfind := (hset.collected.forField?_place hset.valid hp).mpr ⟨hr, hside⟩
  refine (hset.collected.hasColumn_iff hset.valid hp).mpr ?_
  simp only [RelationSet.ownedColumn?, hfind, howns, if_true]

/-- Foreign keys on one type are told apart by their columns. -/
theorem eq_of_keyColumn_eq (hset : set.Resolves d) {r s : Relation} {side side' : Side}
    (hr : r ∈ set.relations) (hs : s ∈ set.relations) (howns : r.ownsReference side = true)
    (howns' : s.ownsReference side' = true)
    (htype : (r.onSide side).objectType = (s.onSide side').objectType)
    (hcolumn : r.referenceColumn side = s.referenceColumn side') : (r, side) = (s, side') := by
  have hcollected := hset.collected
  obtain ⟨p, hp, hside⟩ := hcollected.exists_place hr side
  obtain ⟨q, hq, hside'⟩ := hcollected.exists_place hs side'
  have hheld := hasColumn_of_owns hset hr hp hside howns
  have hheld' := hasColumn_of_owns hset hs hq hside' howns'
  rw [← hcolumn] at hheld'
  obtain ⟨t, f⟩ := p
  obtain ⟨u, g⟩ := q
  obtain ⟨ht, hf⟩ := Document.mem_relationFields.mp hp
  obtain ⟨hu, hg⟩ := Document.mem_relationFields.mp hq
  rw [hside, hside'] at htype
  obtain rfl : t = u := List.eq_of_map_nodup hset.valid.objectNames_nodup ht hu htype
  obtain rfl : f = g := hset.columns t ht f (Document.mem_relationFields_type.mp hf).1 g
    (Document.mem_relationFields_type.mp hg).1 _ hheld hheld'
  have hfind := (hcollected.forField?_place hset.valid hp).mpr ⟨hr, hside⟩
  exact Option.some.inj
    (hfind.symm.trans ((hcollected.forField?_place hset.valid hq).mpr ⟨hs, hside'⟩))

/-- Where the same table holds two foreign keys, their columns decide whether they are one. -/
theorem eq_of_keyHolder_eq (hset : set.Resolves d) (happart : KeysApart set) {r s : Relation}
    {side side' : Side} (hplace : (r, side) ∈ keyPlaces set) (hplace' : (s, side') ∈ keyPlaces set)
    (hholder : keyHolder r side = keyHolder s side') (hstem : keyStem r side = keyStem s side') :
    (r, side) = (s, side') := by
  obtain ⟨hr, hside⟩ := mem_keyPlaces_iff.mp hplace
  obtain ⟨hs, hside'⟩ := mem_keyPlaces_iff.mp hplace'
  have hcolumn : keyColumn r side = keyColumn s side' := by
    rwa [keyStem, keyStem, hholder, String.append_right_inj] at hstem
  unfold keyHolder at hholder
  unfold keyColumn at hcolumn
  -- a junction table tells its columns apart by their labels, the table of a type by the check of
  -- its reference columns
  by_cases hcard : r.cardinality = .manyToMany <;> by_cases hcard' : s.cardinality = .manyToMany
  · simp only [if_pos hcard, if_pos hcard', KeyHolder.junction.injEq] at hholder hcolumn
    obtain rfl := List.eq_of_map_nodup hset.collected.names_nodup hr hs hholder
    have hwords := Relation.junctionColumn_eq_iff.mp hcolumn
    cases side <;> cases side'
    · rfl
    · exact absurd hwords (happart.junctions r hr hcard)
    · exact absurd hwords.symm (happart.junctions r hr hcard)
    · rfl
  · simp [if_pos hcard, if_neg hcard'] at hholder
  · simp [if_neg hcard, if_pos hcard'] at hholder
  · simp only [if_neg hcard, if_neg hcard', KeyHolder.objectType.injEq] at hholder hcolumn
    rw [keySides, if_neg hcard] at hside
    rw [keySides, if_neg hcard'] at hside'
    exact eq_of_keyColumn_eq hset hr hs (List.mem_filter.mp hside).2 (List.mem_filter.mp hside').2
      hholder hcolumn

/-- **The foreign keys of a script** have different names exactly when their columns can be told
apart. -/
theorem constraintNames_nodup_iff (hset : set.Resolves d) {script : List Statement}
    (h : statements d set = .ok script) :
    ((script.flatMap (·.foreignKeys)).map (·.2.name)).Nodup ↔ KeysApart set := by
  rw [constraintNames_eq h, List.nodup_map_iff_inj_on (keyPlaces_nodup hset)]
  simp only [String.append_left_inj]
  constructor
  · intro hinj
    refine ⟨fun r hr hcard hwords => ?_, fun r hr s hs side hside side' hside' hne heq => ?_⟩
    · have hplace : ∀ side, (r, side) ∈ keyPlaces set := fun side =>
        mem_keyPlaces_iff.mpr ⟨hr, by simp [keySides, hcard]⟩
      have hstem : keyStem r .a = keyStem r .b := by
        simp only [keyStem, keyHolder, keyColumn, if_pos hcard,
          Relation.junctionColumn_eq_iff.mpr hwords]
      exact absurd (hinj _ (hplace .a) _ (hplace .b) hstem) (by simp)
    · obtain ⟨rfl, rfl⟩ := Prod.mk.inj (hinj _ (mem_keyPlaces_iff.mpr ⟨hr, hside⟩) _
        (mem_keyPlaces_iff.mpr ⟨hs, hside'⟩) heq)
      exact hne rfl
  · rintro happart ⟨r, side⟩ hr ⟨s, side'⟩ hs hstem
    obtain ⟨hr', hside⟩ := mem_keyPlaces_iff.mp hr
    obtain ⟨hs', hside'⟩ := mem_keyPlaces_iff.mp hs
    by_cases hholder : keyHolder r side = keyHolder s side'
    · exact eq_of_keyHolder_eq hset happart hr hs hholder hstem
    · exact absurd hstem (happart.holders r hr' s hs' side hside side' hside' hholder)

/-! ### The whole script -/

/-- **The script of a resolved document exists.** It creates tables of different names exactly when
the types and relations give different ones, and its foreign keys have different names exactly when
the columns that hold them can be told apart. -/
theorem scriptNames_nodup_iff {objectTypes : List ObjectType} {enumTypes : List EnumType}
    (hd : Document.validated objectTypes enumTypes = .ok d) (h : RelationSet.resolve d = .ok set) :
    ∃ script, statements d set = .ok script ∧
      ((script.filterMap (·.createdTable?)).Nodup ↔ TablesApart d set) ∧
      (((script.flatMap (·.foreignKeys)).map (·.2.name)).Nodup ↔ KeysApart set) := by
  have hset := RelationSet.resolves_of_resolve hd h
  obtain ⟨script, hscript⟩ := exists_statements hset
  exact ⟨script, hscript, createdTables_nodup_iff hset hscript,
    constraintNames_nodup_iff hset hscript⟩

/-- The script of the library has tables and foreign keys of different names. -/
theorem library_scriptNames_nodup : ∃ script, statements .library .library = .ok script ∧
    (script.filterMap (·.createdTable?)).Nodup ∧
    ((script.flatMap (·.foreignKeys)).map (·.2.name)).Nodup := by
  have hd : Document.validated Document.library.objectTypes [] = .ok .library := by decide +kernel
  have h : RelationSet.resolve .library = .ok .library := by decide +kernel
  obtain ⟨script, hscript, htables, hkeys⟩ := scriptNames_nodup_iff hd h
  exact ⟨script, hscript, htables.mpr ⟨by decide +kernel, by decide +kernel⟩,
    hkeys.mpr ⟨by decide +kernel, by decide +kernel⟩⟩

end Sql

/-- Books with two kinds of reviews, whose types differ by their spelling alone. -/
def Document.reviews : Document where
  objectTypes :=
    [ .of "Book"
        [ { name := "id", typeName := "ID", kind := .scalar .id, required := true },
          { name := "reviews", typeName := "BookReview", kind := .relation, list := true },
          { name := "notes", typeName := "book_review", kind := .relation, list := true } ] {},
      .of "BookReview"
        [ { name := "id", typeName := "ID", kind := .scalar .id, required := true },
          { name := "book", typeName := "Book", kind := .relation } ] {},
      .of "book_review"
        [ { name := "id", typeName := "ID", kind := .scalar .id, required := true },
          { name := "book", typeName := "Book", kind := .relation } ] {} ]
  enumTypes := []

/-- The two relations of the reviews. -/
def RelationSet.reviews : RelationSet where
  relations :=
    [ ⟨⟨"Book", "reviews", true, false⟩, ⟨"BookReview", "book", false, false⟩, none⟩,
      ⟨⟨"Book", "notes", true, false⟩, ⟨"book_review", "book", false, false⟩, none⟩ ]

/-- The script of the reviews creates one table twice and has two foreign keys of one name, although
the document is accepted and resolved. -/
theorem Sql.reviews_share_names :
    Document.validated Document.reviews.objectTypes [] = .ok .reviews ∧
      RelationSet.resolve .reviews = .ok .reviews ∧
      ∃ script, statements .reviews .reviews = .ok script ∧
        script.filterMap (·.createdTable?) = ["books", "book_reviews", "book_reviews"] ∧
        (script.flatMap (·.foreignKeys)).map (·.2.name) =
          ["book_reviews_book_id_foreign", "book_reviews_book_id_foreign"] := by
  refine ⟨by decide +kernel, by decide +kernel, ?_⟩
  exact ⟨_, rfl, by decide +kernel, by decide +kernel⟩

end DataModel
