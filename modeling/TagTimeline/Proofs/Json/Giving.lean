import TagTimeline.Json.Record
import TagTimeline.Proofs.Json.Reading

/-!
# What a Document Gives for a Record

What it means that a document is a record of some fields, without the way in which they are found:
an object gives a field by the one member of its name, wherever that stands and whatever other
members there are; an array gives the fields in their order, as far as it goes.

## Main results

* `Document.Gives` — what a document gives for each field of a record.
* `Document.gives_object_iff_of_perm` — objects with other members, or in another order.
* `Document.exists_record?_iff` — the fields that are found are the fields that are given.
-/

namespace TagTimeline.Json

namespace Document

/-- The values of an object's members of some name, in their order. -/
def valuesOf (name : String) (members : List (Spelling × Document)) : List Document :=
  (members.filter fun m => m.1 == some name).map Prod.snd

/-- **That a document gives a record of some fields**, and what it gives for each. -/
inductive Gives (names : List String) : Document → (String → Option Document) → Prop where
  /-- An object whose names are texts: no field is given twice, and there may be other members. -/
  | object {members : List (Spelling × Document)} {given : String → Option Document}
      (htexts : ∀ m ∈ members, m.1.isSome = true)
      (hgiven : ∀ name ∈ names, valuesOf name members = (given name).toList) :
      Gives names (.object members) given
  /-- An array: the first fields are given. -/
  | array {items : List Document} {given : String → Option Document}
      (hlength : items.length ≤ names.length)
      (hgiven : ∀ (i : Nat) (name : String), names[i]? = some name → given name = items[i]?) :
      Gives names (.array items) given

/-- **That a value is given for a field**, or is the default of a field that is not given. -/
def Fills {α : Type} (means : Document → α → Prop) (default : α) : Option Document → α → Prop
  | none, a => a = default
  | some d, a => means d a

/-- **That a value is given for a field that may be empty**: `null` gives none, and so does leaving
out the field where it may be missing. -/
def FillsOptional {α : Type} (means : Document → α → Prop) (mayMiss : Prop) :
    Option Document → Option α → Prop
  | none, a? => mayMiss ∧ a? = none
  | some .null, a? => a? = none
  | some d, a? => ∃ a, a? = some a ∧ means d a

/-- That a document is a text. -/
def IsText (d : Document) (s : String) : Prop := d = .text s

/-- That a document is a flag. -/
def IsFlag (d : Document) (b : Bool) : Prop := d = .bool b

/-- That a document is a whole number of 64 bits, written without point and exponent. -/
def IsCount (d : Document) (n : UInt64) : Prop := d = .int n.toNat

/-- That a document is an object. -/
def IsObject (d : Document) : Prop := ∃ members, d = .object members

/-- That a document is a list of what its items say. -/
def IsList {α : Type} (means : Document → α → Prop) (d : Document) (as : List α) : Prop :=
  ∃ items, d = .array items ∧ List.Forall₂ means items as

/-- Every item of a list says something. -/
theorem IsList.exists_of_mem {α : Type} {means : Document → α → Prop} {items : List Document}
    {as : List α} (h : IsList means (.array items) as) {item : Document} (hitem : item ∈ items) :
    ∃ a, means item a := by
  obtain ⟨items', hitems, hall⟩ := h
  cases hitems
  induction hall with
  | nil => cases hitem
  | cons hfirst _ ih =>
      rcases List.mem_cons.mp hitem with rfl | hmem
      · exact ⟨_, hfirst⟩
      · exact ih hmem

/-- That a value stands for a field, in an object or array that need not be a record. -/
def Holds (d : Document) (names : List String) (name : String) (value : Document) : Prop :=
  match d with
  | .object members => (some name, value) ∈ members
  | .array items => ∃ i : Nat, names[i]? = some name ∧ items[i]? = some value
  | _ => False

/-- That an object has two members of one name. -/
def Repeats (name : String) : Document → Prop
  | .object members => 2 ≤ (valuesOf name members).length
  | _ => False

/-- **That a document breaks the rules of a record**: it gives a field twice, or something that does
not fit the field. -/
def Misgives (names : List String) (fits : String → Document → Prop) (d : Document) : Prop :=
  ∃ name ∈ names, d.Repeats name ∨ ∃ value, d.Holds names name value ∧ ¬ fits name value

/-- What breaks the rules of a record gives something that does not fit, if it gives a record. -/
theorem Gives.of_misgives {names : List String} {fits : String → Document → Prop} {d : Document}
    {given : String → Option Document} (h : d.Gives names given) (hd : d.Misgives names fits) :
    ∃ name ∈ names, ∃ value, given name = some value ∧ ¬ fits name value := by
  obtain ⟨name, hname, hrepeats | ⟨value, hholds, hfits⟩⟩ := hd
  · cases h with
    | array _ _ => exact absurd hrepeats id
    | object _ hgiven =>
        have hlength := congrArg List.length (hgiven name hname)
        have honce : (given name).toList.length ≤ 1 := by cases given name <;> simp
        rw [Repeats] at hrepeats
        omega
  · refine ⟨name, hname, value, ?_, hfits⟩
    cases h with
    | array _ hgiven =>
        obtain ⟨i, hi, hvalue⟩ := hholds
        rw [hgiven i name hi, hvalue]
    | @object members _ _ hgiven =>
        have hmember : (some name, value) ∈ members := hholds
        have hmem : value ∈ valuesOf name members :=
          List.mem_map.mpr ⟨(some name, value), by simpa using hmember, rfl⟩
        rw [hgiven name hname] at hmem
        exact Option.mem_toList.mp hmem

/-! ### Objects up to the order of their members -/

/-- What an object gives, by the values of each name. -/
theorem gives_object_iff {names : List String} {members : List (Spelling × Document)}
    {given : String → Option Document} :
    (object members).Gives names given ↔
      (∀ m ∈ members, m.1.isSome = true) ∧
        ∀ name ∈ names, valuesOf name members = (given name).toList := by
  constructor
  · rintro ⟨htexts, hgiven⟩
    exact ⟨htexts, hgiven⟩
  · rintro ⟨htexts, hgiven⟩
    exact .object htexts hgiven

/-- One value or none is in every order. -/
theorem perm_toList_iff {α : Type} {as : List α} {a? : Option α} :
    as.Perm a?.toList ↔ as = a?.toList := by
  cases a? with
  | none => exact List.perm_nil
  | some a => exact List.perm_singleton

/-- **What an object gives** depends neither on the order of its members nor on those that have
names of their own. -/
theorem gives_object_iff_of_perm {names : List String}
    {members more unknown : List (Spelling × Document)} (hperm : more.Perm (members ++ unknown))
    (hunknown : ∀ m ∈ unknown, ∃ name, m.1 = some name ∧ name ∉ names)
    {given : String → Option Document} :
    (object more).Gives names given ↔ (object members).Gives names given := by
  have htexts : (∀ m ∈ more, m.1.isSome = true) ↔ ∀ m ∈ members, m.1.isSome = true := by
    have hknown : ∀ m ∈ unknown, m.1.isSome = true := by
      intro m hm
      obtain ⟨name, hname, -⟩ := hunknown m hm
      rw [hname, Option.isSome_some]
    simp only [hperm.mem_iff, List.mem_append, or_imp, forall_and]
    exact and_iff_left hknown
  have hvalues : ∀ name ∈ names, (valuesOf name more).Perm (valuesOf name members) := by
    intro name hname
    have hnone : (unknown.filter fun m => m.1 == some name) = [] := by
      rw [List.filter_eq_nil_iff]
      rintro m hm hsame
      obtain ⟨other, hother, hnot⟩ := hunknown m hm
      rw [hother, beq_iff_eq, Option.some_inj] at hsame
      exact hnot (hsame ▸ hname)
    have hfilter := hperm.filter fun m => m.1 == some name
    rw [List.filter_append, hnone, List.append_nil] at hfilter
    exact hfilter.map Prod.snd
  rw [gives_object_iff, gives_object_iff, htexts]
  refine and_congr_right fun _ => forall₂_congr fun name hname => ?_
  rw [← perm_toList_iff, ← perm_toList_iff]
  exact (hvalues name hname).congr_left _

/-! ### The fields that are found -/

/-- The members of an object have texts for names exactly if they are members by name. -/
theorem namedMembers?_eq_some_iff {members : List (Spelling × Document)}
    {named : List (String × Document)} :
    namedMembers? members = some named ↔ members = named.map fun m => (some m.1, m.2) := by
  induction members generalizing named with
  | nil =>
      rw [namedMembers?, Option.some_inj]
      constructor
      · rintro rfl
        rfl
      · intro h
        exact (List.map_eq_nil_iff.mp h.symm).symm
  | cons member members ih =>
      obtain ⟨name, d⟩ := member
      cases name with
      | none => cases named <;> simp [namedMembers?]
      | some name =>
          rw [namedMembers?, Option.map_eq_some_iff]
          constructor
          · rintro ⟨rest, hrest, rfl⟩
            rw [List.map_cons, ih.mp hrest]
          · intro h
            cases named with
            | nil => cases h
            | cons first rest =>
                rw [List.map_cons] at h
                obtain ⟨hfirst, hrest⟩ := List.cons.inj h
                cases hfirst
                exact ⟨rest, ih.mpr hrest, rfl⟩

/-- Members have texts for names if each has one. -/
theorem exists_map_some {members : List (Spelling × Document)}
    (h : ∀ m ∈ members, m.1.isSome = true) :
    ∃ named : List (String × Document), members = named.map fun m => (some m.1, m.2) := by
  induction members with
  | nil => exact ⟨[], rfl⟩
  | cons member members ih =>
      obtain ⟨named, rfl⟩ := ih fun m hm => h m (List.mem_cons_of_mem _ hm)
      obtain ⟨name, hname⟩ := Option.isSome_iff_exists.mp (h member List.mem_cons_self)
      exact ⟨(name, member.2) :: named, by rw [List.map_cons, ← hname]⟩

/-- The values of a name among members by name. -/
theorem valuesOf_map_some (name : String) (named : List (String × Document)) :
    valuesOf name (named.map fun m => (some m.1, m.2)) =
      (named.filter fun m => m.1 == name).map Prod.snd := by
  simp [valuesOf, List.filter_map, Function.comp_def]

/-- What is looked up is the first value of a name. -/
theorem lookup_eq_head? (name : String) (named : List (String × Document)) :
    named.lookup name = ((named.filter fun m => m.1 == name).map Prod.snd).head? := by
  induction named with
  | nil => rfl
  | cons member named ih =>
      obtain ⟨name', d⟩ := member
      by_cases h : name' = name
      · subst h
        simp
      · have hother : (name == name') = false := by simpa using fun heq : name = name' => h heq.symm
        simp [List.lookup_cons, h, hother, ih]

/-- Members of other names make no difference to what is looked up. -/
theorem lookup_filter_contains {names : List String} {name : String} (hname : name ∈ names)
    (named : List (String × Document)) :
    (named.filter fun m => names.contains m.1).lookup name = named.lookup name := by
  rw [lookup_eq_head?, lookup_eq_head?, List.filter_filter]
  congr 3
  funext m
  by_cases h : m.1 = name
  · simp [h, hname]
  · simp [h]

/-- Items are looked up by the position of their field. -/
theorem lookup_zip {names : List String} (hnodup : names.Nodup) (items : List Document) {i : Nat}
    {name : String} (hi : names[i]? = some name) : (names.zip items).lookup name = items[i]? := by
  induction names generalizing items i with
  | nil => cases hi
  | cons first names ih =>
      obtain ⟨hfirst, hrest⟩ := List.nodup_cons.mp hnodup
      cases items with
      | nil => rfl
      | cons d items =>
          cases i with
          | zero =>
              obtain rfl : first = name := Option.some.inj hi
              simp
          | succ i =>
              have hname : names[i]? = some name := hi
              have hother : (name == first) = false := by
                rw [beq_eq_false_iff_ne]
                rintro rfl
                exact hfirst (List.mem_of_getElem? hname)
              rw [List.zip_cons_cons, List.lookup_cons, hother]
              exact ih hrest items hname

/-- A list with one element at most is the first of it. -/
theorem eq_toList_head? {α : Type} {as : List α} (h : as.length ≤ 1) : as = as.head?.toList := by
  match as, h with
  | [], _ => rfl
  | [a], _ => rfl

/-- **The fields that are found are those that are given.** -/
theorem exists_record?_iff {names : List String} (hnodup : names.Nodup) {d : Document}
    {given : String → Option Document} :
    (∃ fields, d.record? names = some fields ∧ ∀ name ∈ names, fields.find? name = given name) ↔
      d.Gives names given := by
  constructor
  · rintro ⟨fields, hfields, hfind⟩
    cases d with
    | array items =>
        rw [record?] at hfields
        split at hfields
        · next hlength =>
            cases hfields
            refine .array hlength fun i name hi => ?_
            rw [← hfind name (List.mem_of_getElem? hi)]
            exact lookup_zip hnodup items hi
        · cases hfields
    | object members =>
        obtain ⟨named, hnamed, hchecked⟩ := Option.bind_eq_some_iff.mp hfields
        obtain rfl := namedMembers?_eq_some_iff.mp hnamed
        split at hchecked
        · next honce =>
            cases hchecked
            have htexts : ∀ m ∈ named.map fun m => (some m.1, m.2), m.1.isSome = true := by
              intro m hm
              obtain ⟨m', -, rfl⟩ := List.mem_map.mp hm
              rfl
            refine .object htexts fun name hname => ?_
            have hcount : (named.filter fun m => m.1 == name).length ≤ 1 := by
              rw [← List.countP_eq_length_filter]
              simpa using List.all_eq_true.mp honce name hname
            rw [← hfind name hname, Fields.find?, lookup_filter_contains hname, lookup_eq_head?,
              valuesOf_map_some]
            exact eq_toList_head? (by rwa [List.length_map])
        · cases hchecked
    | null | bool | number | string => cases hfields
  · intro h
    cases h with
    | @array items given hlength hgiven =>
        refine ⟨_, if_pos hlength, fun name hname => ?_⟩
        obtain ⟨i, hi⟩ := List.mem_iff_getElem?.mp hname
        rw [hgiven i name hi]
        exact lookup_zip hnodup items hi
    | @object members given htexts hgiven =>
        obtain ⟨named, rfl⟩ := exists_map_some htexts
        have hvalues : ∀ name ∈ names,
            (named.filter fun m => m.1 == name).map Prod.snd = (given name).toList := by
          intro name hname
          rw [← valuesOf_map_some]
          exact hgiven name hname
        have honce : (names.all fun name => named.countP (fun m => m.1 == name) ≤ 1) = true := by
          rw [List.all_eq_true]
          intro name hname
          rw [decide_eq_true_eq, List.countP_eq_length_filter]
          have hlength := congrArg List.length (hvalues name hname)
          rw [List.length_map] at hlength
          rw [hlength]
          cases given name <;> simp
        refine ⟨⟨false, named.filter fun m => names.contains m.1⟩, ?_, fun name hname => ?_⟩
        · rw [record?, namedMembers?_eq_some_iff.mpr rfl, Option.bind_some, if_pos honce]
        · rw [Fields.find?, lookup_filter_contains hname, lookup_eq_head?, hvalues name hname]
          cases given name <;> rfl

end Document

/-- The fields of an object are those that did not come as an array. -/
theorem Document.positional_of_record? {names : List String} {d : Document} {fields : Fields}
    (h : d.record? names = some fields) : fields.positional = false ↔ d.IsObject := by
  cases d with
  | array items =>
      rw [record?] at h
      split at h
      · cases h
        simp [IsObject]
      · cases h
  | object members =>
      obtain ⟨named, -, hchecked⟩ := Option.bind_eq_some_iff.mp h
      split at hchecked
      · cases hchecked
        simp [IsObject]
      · cases hchecked
  | null | bool | number | string => cases h

/-- **What is read from the fields of a record** is what is filled by what a document gives, if it
is so for all fields. -/
theorem Document.record?_bind_eq_some_iff {α : Type} {names : List String} (hnodup : names.Nodup)
    {d : Document} {read : Fields → Option α} {a : α}
    (IsFilledBy : Prop → (String → Option Document) → Prop)
    (hread : ∀ fields : Fields,
      read fields = some a ↔ IsFilledBy (fields.positional = false) fields.find?)
    (hcongr : ∀ {mayMiss given given'}, (∀ name ∈ names, given name = given' name) →
      IsFilledBy mayMiss given → IsFilledBy mayMiss given') :
    (d.record? names).bind read = some a ↔
      ∃ given, d.Gives names given ∧ IsFilledBy d.IsObject given := by
  rw [Option.bind_eq_some_iff]
  constructor
  · rintro ⟨fields, hfields, hvalue⟩
    rw [hread, positional_of_record? hfields] at hvalue
    exact ⟨fields.find?, (exists_record?_iff hnodup).mp ⟨fields, hfields, fun _ _ => rfl⟩, hvalue⟩
  · rintro ⟨given, hgives, hfilled⟩
    obtain ⟨fields, hfields, hfind⟩ := (exists_record?_iff hnodup).mpr hgives
    refine ⟨fields, hfields, ?_⟩
    rw [hread, positional_of_record? hfields]
    exact hcongr (fun name hname => (hfind name hname).symm) hfilled

/-! ### The values of fields -/

/-- **A field with a default** has the value that is given for it. -/
theorem Fields.withDefault?_eq_some_iff {α : Type} {fields : Fields} {name : String}
    {default a : α} {decode : Document → Option α} :
    fields.withDefault? name default decode = some a ↔
      Document.Fills (fun d a => decode d = some a) default (fields.find? name) a := by
  rw [withDefault?]
  cases fields.find? name with
  | none => exact ⟨fun h => (Option.some.inj h).symm, fun h => congrArg some h.symm⟩
  | some d => exact Iff.rfl

/-- **A field that may be empty** has the value that is given for it. -/
theorem Fields.optional?_eq_some_iff {α : Type} {fields : Fields} {name : String} {a? : Option α}
    {decode : Document → Option α} :
    fields.optional? name decode = some a? ↔
      Document.FillsOptional (fun d a => decode d = some a) (fields.positional = false)
        (fields.find? name) a? := by
  rw [optional?]
  cases fields.find? name with
  | none => cases fields.positional <;> simp [Document.FillsOptional, eq_comm]
  | some d =>
      cases d with
      | null => simp [Document.FillsOptional, eq_comm]
      | _ =>
          simp only [Document.FillsOptional, Option.map_eq_some_iff]
          exact exists_congr fun a => and_comm.trans (and_congr_left' eq_comm)

/-- A text is what a document says by being it. -/
theorem Document.text?_eq_some_iff {d : Document} {s : String} : d.text? = some s ↔ d.IsText s := by
  cases d with
  | string spelling => simp [text?, IsText, text]
  | _ => simp [text?, IsText, text]

/-- A flag is what a document says by being it. -/
theorem Document.bool?_eq_some_iff {d : Document} {b : Bool} : d.bool? = some b ↔ d.IsFlag b := by
  cases d <;> simp [bool?, IsFlag]

/-- A number is a whole number exactly if it is written like one. -/
theorem Number.int?_eq_some_iff {n : Number} {i : Int} : n.int? = some i ↔ n = ofInt i := by
  constructor
  · intro h
    obtain ⟨negative, digits, fraction, exponent⟩ := n
    rw [int?] at h
    split at h
    · cases h
    · next hplain =>
        rw [not_or, Option.not_isSome_iff_eq_none, Option.not_isSome_iff_eq_none] at hplain
        obtain ⟨rfl, rfl⟩ := hplain
        -- a negative number has a digit that is not zero
        cases negative with
        | false =>
            cases h
            simp [ofInt]
        | true =>
            rw [if_pos rfl] at h
            split at h
            · cases h
            · next hdigits =>
                cases h
                simp [ofInt, Nat.pos_of_ne_zero hdigits]
  · rintro rfl
    exact int?_ofInt i

/-- **A number of 64 bits** is what a document says by being it. -/
theorem Document.uint64?_eq_some_iff {d : Document} {n : UInt64} :
    d.uint64? = some n ↔ d.IsCount n := by
  have hint : ∀ i : Int, d.int? = some i ↔ d = .int i := by
    intro i
    cases d with
    | number m => simp [int?, int, Number.int?_eq_some_iff]
    | _ => simp [int?, int]
  rw [uint64?, Option.bind_eq_some_iff]
  constructor
  · rintro ⟨i, hi, h⟩
    split at h
    · next hrange =>
        cases h
        have hsize : i.toNat < UInt64.size := (Int.toNat_lt hrange.1).mpr hrange.2
        rw [IsCount, UInt64.toNat_ofNat_of_lt' hsize, Int.toNat_of_nonneg hrange.1]
        exact (hint i).mp hi
    · cases h
  · intro h
    have hsize : ((n.toNat : Nat) : Int) < Int.pow 2 64 := Int.ofNat_lt.mpr n.toNat_lt
    refine ⟨n.toNat, (hint _).mpr h, ?_⟩
    rw [if_pos ⟨Int.natCast_nonneg _, hsize⟩, Int.toNat_natCast, UInt64.ofNat_toNat]

namespace Document

variable {fields : Fields} {name : String}

/-- A text in a field is what is given for it. -/
theorem withDefault?_text_iff {default s : String} :
    fields.withDefault? name default text? = some s ↔
      Fills IsText default (fields.find? name) s := by
  simp only [Fields.withDefault?_eq_some_iff, text?_eq_some_iff]

/-- A flag in a field is what is given for it. -/
theorem withDefault?_flag_iff {default b : Bool} :
    fields.withDefault? name default bool? = some b ↔
      Fills IsFlag default (fields.find? name) b := by
  simp only [Fields.withDefault?_eq_some_iff, bool?_eq_some_iff]

/-- A number in a field is what is given for it. -/
theorem withDefault?_count_iff {default n : UInt64} :
    fields.withDefault? name default uint64? = some n ↔
      Fills IsCount default (fields.find? name) n := by
  simp only [Fields.withDefault?_eq_some_iff, uint64?_eq_some_iff]

/-- A text in a field that may be empty is what is given for it. -/
theorem optional?_text_iff {s? : Option String} :
    fields.optional? name text? = some s? ↔
      FillsOptional IsText (fields.positional = false) (fields.find? name) s? := by
  simp only [Fields.optional?_eq_some_iff, text?_eq_some_iff]

end Document

/-- **A list** is what its items say. -/
theorem Document.list?_eq_some_iff {α : Type} {decode : Document → Option α} {d : Document}
    {as : List α} : d.list? decode = some as ↔ d.IsList (fun d a => decode d = some a) as := by
  have hitems : ∀ items : List Document,
      items.mapM decode = some as ↔ List.Forall₂ (fun d a => decode d = some a) items as := by
    intro items
    induction items generalizing as with
    | nil => cases as <;> simp [pure]
    | cons item items ih =>
        rw [List.mapM_cons, List.forall₂_cons_left_iff]
        constructor
        · intro h
          obtain ⟨a, ha, h⟩ := Option.bind_eq_some_iff.mp h
          obtain ⟨rest, hrest, h⟩ := Option.bind_eq_some_iff.mp h
          exact ⟨a, rest, ha, ih.mp hrest, (Option.some.inj h).symm⟩
        · rintro ⟨a, rest, ha, hrest, rfl⟩
          exact Option.bind_eq_some_iff.mpr
            ⟨a, ha, Option.bind_eq_some_iff.mpr ⟨rest, ih.mpr hrest, rfl⟩⟩
  cases d with
  | array items => simp [list?, IsList, hitems]
  | _ => simp [list?, IsList]

end TagTimeline.Json
