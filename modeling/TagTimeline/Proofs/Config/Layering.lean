import Mathlib.Data.List.Induction
import TagTimeline.Config.Load

/-!
# Layers of Settings

What a layer of settings makes of those below it, setting by setting. An entry of a layer gives a
setting its value by the place of the setting, or by a table for its whole section. A value that is
given counts instead of the one below; only a table without members leaves what is there. So layers
can be looked at for each setting on its own, as long as no entry puts something else in the place
of a section, or goes into a setting.

## Main results

* `Value.lookup_layMembersOver` — what a table laid over another makes of one member.
* `IsLaid.put?` — an entry that respects the sections, setting by setting.
* `IsLaid.merge?_cases` — a layer of such entries, unless one of them has no position.
-/

namespace TagTimeline.Config

/-- **The settings of the program.** -/
inductive Setting where
  | url
  | maxConnections
  | minConnections
  | requiredTag
  deriving DecidableEq, Repr

namespace Setting

/-- The section that a setting stands in. -/
def group : Setting → String
  | url | maxConnections | minConnections => "database"
  | requiredTag => "site"

/-- The name of a setting in its section. -/
def field : Setting → String
  | url => "url"
  | maxConnections => "max_connections"
  | minConnections => "min_connections"
  | requiredTag => "required_tag"

/-- The key of a setting. -/
def key (setting : Setting) : String := memberKey setting.group setting.field

/-- The place of a setting. -/
def place (setting : Setting) : Place := [.name setting.group, .name setting.field]

/-- The name of a section spells its place. -/
theorem ofName_group (setting : Setting) :
    Place.ofName setting.group = [.name setting.group] := by
  cases setting <;> decide

/-- The key of a setting spells its place. -/
theorem ofName_key (setting : Setting) : Place.ofName setting.key = setting.place := by
  cases setting <;> decide

end Setting

namespace Value

/-! ### Members -/

/-- A member that is set is found, and no other one has changed. -/
theorem lookup_setMember (name other : String) (value : Value) (members : List (String × Value)) :
    (setMember name value members).lookup other =
      if other = name then some value else members.lookup other := by
  induction members with
  | nil =>
      by_cases h : other = name
      · simp [setMember, h]
      · have hne : (other == name) = false := beq_eq_false_iff_ne.mpr h
        simp [setMember, List.lookup_cons, hne, h]
  | cons member rest ih =>
      obtain ⟨n, v⟩ := member
      rw [setMember]
      split
      · next heq =>
          subst heq
          by_cases h : other = n
          · simp [h]
          · have hne : (other == n) = false := beq_eq_false_iff_ne.mpr h
            simp [List.lookup_cons, hne, h]
      · next hne =>
          by_cases h : other = n
          · subst h
            simp [hne]
          · have hother : (other == n) = false := beq_eq_false_iff_ne.mpr h
            simp [List.lookup_cons, hother, ih]

/-- **A table laid over another** has, under each name, what the members of that name make of what
was there. -/
theorem lookup_layMembersOver (upper lower : List (String × Value)) :
    ∃ members, layMembersOver upper (.table lower) = .table members ∧
      ∀ name, members.lookup name =
        ((upper.filter fun member => member.1 == name).map Prod.snd).foldl
          (fun old value => some (layOver value old)) (lower.lookup name) := by
  induction upper generalizing lower with
  | nil => exact ⟨lower, by rw [layMembersOver], fun _ => rfl⟩
  | cons member rest ih =>
      obtain ⟨n, v⟩ := member
      obtain ⟨members, hlaid, hlookup⟩ := ih (setMember n (layOver v (lower.lookup n)) lower)
      refine ⟨members, by rw [layMembersOver]; exact hlaid, fun name => ?_⟩
      rw [hlookup, lookup_setMember]
      by_cases h : name = n
      · simp [h]
      · have hne : (n == name) = false := beq_eq_false_iff_ne.mpr (Ne.symm h)
        simp [h, hne]

/-! ### One value over another -/

/-- **What counts of two values that may be given**: the upper one, but for a table without members
if there is something below. -/
def orBelow : Option Value → Option Value → Option Value
  | none, lower => lower
  | some (.table []), some lower => some lower
  | some upper, _ => some upper

/-- Nothing below leaves the upper value. -/
theorem orBelow_none (upper : Option Value) : orBelow upper none = upper := by
  rcases upper with _ | (_ | _ | _ | _ | _ | _ | (_ | _)) <;> rfl

/-- A value other than a table without members counts. -/
theorem orBelow_some {value : Value} (h : value ≠ .table []) (lower : Option Value) :
    orBelow (some value) lower = some value := by
  rcases value with _ | _ | _ | _ | _ | _ | (_ | _)
  case table.nil => exact absurd rfl h
  all_goals rfl

/-- What counts of three values does not depend on which two are taken first. -/
theorem orBelow_assoc (a b c : Option Value) :
    orBelow (orBelow a b) c = orBelow a (orBelow b c) := by
  cases a with
  | none => rfl
  | some a =>
      by_cases ha : a = .table []
      · subst ha
        cases b with
        | none => rfl
        | some b =>
            by_cases hb : b = .table []
            · subst hb
              cases c <;> rfl
            · have hbelow : orBelow (some (.table [])) (some b) = some b := rfl
              rw [hbelow, orBelow_some hb, hbelow]
      · rw [orBelow_some ha, orBelow_some ha, orBelow_some ha]

/-- What counts of values given one after the other. -/
def orBelowAll (values : List Value) (lower : Option Value) : Option Value :=
  values.foldl (fun lower value => orBelow (some value) lower) lower

/-- Values given one after the other count as one value. -/
theorem orBelowAll_eq (values : List Value) (lower : Option Value) :
    orBelowAll values lower = orBelow (orBelowAll values none) lower := by
  induction values using List.reverseRecOn with
  | nil => rfl
  | append_singleton values value ih =>
      simp only [orBelowAll, List.foldl_append, List.foldl_cons, List.foldl_nil] at ih ⊢
      rw [ih, orBelow_assoc]

/-- **That two values that may be given are alike**: they are the same, or tables both. -/
def Alike (a b : Option Value) : Prop :=
  a = b ∨ ∃ members members', a = some (.table members) ∧ b = some (.table members')

/-- A value laid over another is alike to what counts of the two. -/
theorem Alike.layOver {a b : Option Value} (h : Alike a b) (value : Value) :
    Alike (some (value.layOver a)) (orBelow (some value) b) := by
  cases value with
  | table members =>
      rw [Value.layOver]
      cases members with
      | nil =>
          rw [layMembersOver]
          rcases h with rfl | ⟨_, _, rfl, rfl⟩
          · cases a <;> exact .inl rfl
          · exact .inr ⟨_, _, rfl, rfl⟩
      | cons member rest =>
          obtain ⟨n, v⟩ := member
          rw [layMembersOver]
          obtain ⟨members, hlaid, -⟩ := lookup_layMembersOver rest
            (setMember n (v.layOver ((a.getD emptyTable).members.lookup n))
              (a.getD emptyTable).members)
          exact .inr ⟨_, _, congrArg some hlaid, rfl⟩
  | null | flag | whole | real | text | list =>
      left
      rw [Value.layOver]
      · rfl
      · intro members heq
        cases heq

/-- Values laid one after the other are alike to what counts of them. -/
theorem Alike.foldl {a b : Option Value} (h : Alike a b) (values : List Value) :
    Alike (values.foldl (fun old value => some (value.layOver old)) a) (orBelowAll values b) := by
  induction values generalizing a b with
  | nil => exact h
  | cons value rest ih => exact ih (h.layOver value)

/-! ### Putting values at places -/

/-- Putting a value at a place that begins with a name changes the member of that name. -/
theorem put?_name_cons (name : String) (rest : Place) (value lower : Value) :
    put? (.name name :: rest) value lower =
      (if rest = [] then some (layOver value (lower.members.lookup name))
        else put? rest value ((lower.members.lookup name).getD null)).map fun inner =>
          .table (setMember name inner lower.members) := by
  cases rest with
  | nil => rw [put?_name]; rfl
  | cons step rest =>
      rw [put?, if_neg (List.cons_ne_nil step rest)]
      exact List.cons_ne_nil step rest

/-- That an index has no position in a short list: it counts from the end, or is beyond all
bounds. -/
def IsRemote (i : Int) : Prop := i < 0 ∨ (lengthBound : Int) ≤ i

/-- An index without a position is remote. -/
theorem isRemote_of_position?_eq_none {i : Int} {length : Nat} (h : position? i length = none) :
    IsRemote i := by
  by_cases hi : 0 ≤ i
  · rw [position?, if_pos hi] at h
    split at h
    · cases h
    · exact .inr (by omega)
  · exact .inl (by omega)

/-- **A value has no place** only if an index on the way is remote. -/
theorem exists_isRemote_of_put?_eq_none {place : Place} {value lower : Value}
    (h : put? place value lower = none) : ∃ i, .index i ∈ place ∧ IsRemote i := by
  induction place generalizing lower with
  | nil => simp [put?] at h
  | cons step rest ih =>
      cases step with
      | name name =>
          rw [put?_name_cons, Option.map_eq_none_iff] at h
          split at h
          · cases h
          · obtain ⟨i, hi, hremote⟩ := ih h
            exact ⟨i, List.mem_cons_of_mem _ hi, hremote⟩
      | index i =>
          rw [put?] at h
          cases hposition : position? i lower.items.length with
          | none => exact ⟨i, List.mem_cons_self, isRemote_of_position?_eq_none hposition⟩
          | some position =>
              cases hinner : put? rest value (lower.items[position]?.getD null) with
              | none =>
                  obtain ⟨j, hj, hremote⟩ := ih hinner
                  exact ⟨j, List.mem_cons_of_mem _ hj, hremote⟩
              | some inner =>
                  simp [hposition, hinner] at h

end Value

namespace Setting

/-- What stands at the place of a setting. -/
def at? (setting : Setting) (root : Value) : Option Value :=
  (root.members.lookup setting.group).bind fun group => group.members.lookup setting.field

/-- **The values that an entry of a layer gives a setting**, under its key or as a member of its
section. -/
def given (setting : Setting) (entry : String × Value) : List Value :=
  if entry.1 = setting.key then [entry.2]
  else if entry.1 = setting.group then
    (entry.2.members.filter fun member => member.1 == setting.field).map Prod.snd
  else []

section

variable {setting : Setting} {entry : String × Value}

/-- An entry gives a setting nothing unless it goes to its place or its section. -/
theorem given_eq_nil (hplace : Place.ofName entry.1 ≠ setting.place)
    (hgroup : Place.ofName entry.1 ≠ [.name setting.group]) : setting.given entry = [] := by
  have hkey : entry.1 ≠ setting.key := fun heq => hplace (by rw [heq, ofName_key])
  have hname : entry.1 ≠ setting.group := fun heq => hgroup (by rw [heq, ofName_group])
  rw [given, if_neg hkey, if_neg hname]

/-- An entry outside of its section gives a setting nothing. -/
theorem given_of_group_ne {group : String} {rest : Place}
    (hplace : Place.ofName entry.1 = .name group :: rest) (hne : setting.group ≠ group) :
    setting.given entry = [] := by
  apply given_eq_nil <;> simp [hplace, place, Ne.symm hne]

/-- An entry at another name in its section gives a setting nothing. -/
theorem given_of_field_ne {group name : String} {rest : Place}
    (hplace : Place.ofName entry.1 = .name group :: .name name :: rest)
    (hne : setting.field ≠ name) : setting.given entry = [] := by
  apply given_eq_nil <;> simp [hplace, place, Ne.symm hne]

/-- An entry for its section gives a setting the members of its name. -/
theorem given_of_group (hgroup : entry.1 = setting.group) :
    setting.given entry =
      (entry.2.members.filter fun member => member.1 == setting.field).map Prod.snd := by
  have hkey : entry.1 ≠ setting.key := by
    rw [hgroup]
    cases setting <;> decide
  rw [given, if_neg hkey, if_pos hgroup]

end

/-- **The value that a layer gives a setting**, if it gives one. -/
def value? (setting : Setting) (layer : List (String × Value)) : Option Value :=
  Value.orBelowAll (layer.flatMap setting.given) none

end Setting

/-- **That an entry respects the sections**: it stands outside of them, is a table for one of them,
has the key of a setting, or goes to another name in a section. -/
inductive IsRegular (entry : String × Value) : Prop where
  | outside (name : String) (rest : Place) (place : Place.ofName entry.1 = .name name :: rest)
      (apart : ∀ setting : Setting, setting.group ≠ name)
  | whole (owner : Setting) (members : List (String × Value)) (name : entry.1 = owner.group)
      (value : entry.2 = .table members)
  | own (owner : Setting) (name : entry.1 = owner.key)
  | unknown (group name : String) (rest : Place)
      (place : Place.ofName entry.1 = .name group :: .name name :: rest)
      (apart : ∀ setting : Setting, setting.group = group → setting.field ≠ name)

/-- **That a configuration value comes from given values**: its sections are tables, and what stands
at the place of a setting is alike to its value. -/
structure IsLaid (root : Value) (values : Setting → Option Value) : Prop where
  groups : ∀ (setting : Setting) group, root.members.lookup setting.group = some group →
    ∃ members, group = .table members
  settings : ∀ setting, Value.Alike (setting.at? root) (values setting)

namespace IsLaid

variable {root : Value} {values : Setting → Option Value}

/-- What is put outside the sections leaves the settings. -/
theorem setMember_outside (h : IsLaid root values) {name : String}
    (hname : ∀ setting : Setting, setting.group ≠ name) (inner : Value) :
    IsLaid (.table (Value.setMember name inner root.members)) values := by
  have hlookup : ∀ setting : Setting,
      (Value.setMember name inner root.members).lookup setting.group =
        root.members.lookup setting.group := by
    intro setting
    rw [Value.lookup_setMember, if_neg (hname setting)]
  refine ⟨fun setting group hgroup => ?_, fun setting => ?_⟩
  · exact h.groups setting group ((hlookup setting).symm.trans hgroup)
  · rw [Setting.at?, Value.members, hlookup]
    exact h.settings setting

/-- What is put in a section changes the settings of that section. -/
theorem setMember_group (h : IsLaid root values) {name : String}
    {members : List (String × Value)} {values' : Setting → Option Value}
    (hin : ∀ setting : Setting, setting.group = name →
      Value.Alike (members.lookup setting.field) (values' setting))
    (hout : ∀ setting : Setting, setting.group ≠ name → values' setting = values setting) :
    IsLaid (.table (Value.setMember name (.table members) root.members)) values' := by
  refine ⟨fun setting group hgroup => ?_, fun setting => ?_⟩
  · rw [Value.members, Value.lookup_setMember] at hgroup
    split at hgroup
    · exact ⟨members, (Option.some.inj hgroup).symm⟩
    · exact h.groups setting group hgroup
  · rw [Setting.at?, Value.members, Value.lookup_setMember]
    split
    · next heq => exact hin setting heq
    · next hne =>
        rw [hout setting hne]
        exact h.settings setting

/-- What stands at the place of a setting stands in its section, which may be made for it. -/
theorem at?_eq (setting : Setting) (root : Value) {none' : Value} (hnone : none'.members = []) :
    setting.at? root =
      ((root.members.lookup setting.group).getD none').members.lookup setting.field := by
  rw [Setting.at?]
  cases root.members.lookup setting.group with
  | none => rw [Option.getD_none, hnone]; rfl
  | some group => rfl

/-- **An entry that respects the sections** gives its values to the settings. -/
theorem put? (h : IsLaid root values) {entry : String × Value} (hregular : IsRegular entry)
    {root' : Value} (hput : Value.put? (Place.ofName entry.1) entry.2 root = some root') :
    IsLaid root' fun setting => Value.orBelowAll (setting.given entry) (values setting) := by
  cases hregular with
  | outside name rest place apart =>
      rw [place, Value.put?_name_cons] at hput
      obtain ⟨inner, -, rfl⟩ := Option.map_eq_some_iff.mp hput
      have hgiven : (fun setting : Setting =>
          Value.orBelowAll (setting.given entry) (values setting)) = values := by
        funext setting
        rw [Setting.given_of_group_ne place (apart setting)]
        rfl
      rw [hgiven]
      exact h.setMember_outside apart inner
  | whole owner members name value =>
      have place : Place.ofName entry.1 = [.name owner.group] := by rw [name, owner.ofName_group]
      obtain ⟨lower, hlower⟩ : ∃ lower,
          (root.members.lookup owner.group).getD Value.emptyTable = .table lower := by
        cases hgroup : root.members.lookup owner.group with
        | none => exact ⟨[], rfl⟩
        | some group => exact h.groups owner group hgroup
      obtain ⟨laid, hlaid, hlookup⟩ := Value.lookup_layMembersOver members lower
      rw [place, value, Value.put?_name, Value.layOver, hlower, hlaid] at hput
      obtain rfl := Option.some.inj hput
      refine h.setMember_group (fun setting hgroup => ?_) fun setting hgroup => ?_
      · have hat : lower.lookup setting.field = setting.at? root := by
          rw [at?_eq setting root (rfl : Value.emptyTable.members = []), hgroup, hlower]
          rfl
        rw [hlookup, Setting.given_of_group (name.trans hgroup.symm), value, hat]
        exact (h.settings setting).foldl _
      · rw [Setting.given_of_group_ne place hgroup]
        rfl
  | own owner name =>
      have place : Place.ofName entry.1 = owner.place := by rw [name, owner.ofName_key]
      rw [place, Setting.place, Value.put?_name_cons, if_neg (List.cons_ne_nil _ _),
        Value.put?_name, Option.map_some] at hput
      obtain rfl := Option.some.inj hput
      refine h.setMember_group (fun setting hgroup => ?_) fun setting hgroup => ?_
      · rw [Value.lookup_setMember]
        by_cases hfield : setting.field = owner.field
        · have hkey : entry.1 = setting.key := by
            rw [name, Setting.key, Setting.key, hgroup, hfield]
          rw [if_pos hfield, Setting.given, if_pos hkey, ← hgroup, ← hfield,
            ← at?_eq setting root (rfl : Value.null.members = [])]
          exact (h.settings setting).layOver entry.2
        · rw [if_neg hfield, Setting.given_of_field_ne place hfield, ← hgroup,
            ← at?_eq setting root (rfl : Value.null.members = [])]
          exact h.settings setting
      · rw [Setting.given_of_group_ne place hgroup]
        rfl
  | unknown group name rest place apart =>
      rw [place, Value.put?_name_cons, if_neg (List.cons_ne_nil _ _), Value.put?_name_cons] at hput
      obtain ⟨inner, hinner, rfl⟩ := Option.map_eq_some_iff.mp hput
      obtain ⟨innermost, -, rfl⟩ := Option.map_eq_some_iff.mp hinner
      refine h.setMember_group (fun setting hgroup => ?_) fun setting hgroup => ?_
      · have hfield := apart setting hgroup
        rw [Value.lookup_setMember, if_neg hfield, Setting.given_of_field_ne place hfield,
          ← hgroup, ← at?_eq setting root (rfl : Value.null.members = [])]
        exact h.settings setting
      · rw [Setting.given_of_group_ne place hgroup]
        rfl

end IsLaid

/-! ### Whole layers -/

/-- A layer gives what its first entry gives, and over that what the others give. -/
theorem Setting.orBelow_value?_cons (setting : Setting) (entry : String × Value)
    (more : List (String × Value)) (lower : Option Value) :
    Value.orBelow (setting.value? (entry :: more)) lower =
      Value.orBelow (setting.value? more) (Value.orBelowAll (setting.given entry) lower) := by
  rw [Setting.value?, Setting.value?, ← Value.orBelowAll_eq, ← Value.orBelowAll_eq,
    List.flatMap_cons, Value.orBelowAll, List.foldl_append]
  rfl

/-- That an entry goes to an index which may have no position. -/
def IsAstray (entry : String × Value) : Prop :=
  ∃ i, .index i ∈ Place.ofName entry.1 ∧ Value.IsRemote i

/-- **A layer whose entries respect the sections** gives its values to the settings, unless one of
its entries has no position. -/
theorem IsLaid.merge?_cases {root : Value} {values : Setting → Option Value}
    (h : IsLaid root values) {layer : List (String × Value)}
    (hregular : ∀ entry ∈ layer, IsRegular entry) :
    (∃ root', Value.merge? layer root = some root' ∧
      IsLaid root' fun setting => Value.orBelow (setting.value? layer) (values setting)) ∨
    Value.merge? layer root = none ∧ ∃ entry ∈ layer, IsAstray entry := by
  induction layer generalizing root values with
  | nil => exact .inl ⟨root, rfl, h⟩
  | cons entry more ih =>
      have hmerge : Value.merge? (entry :: more) root =
          (Value.put? (Place.ofName entry.1) entry.2 root).bind (Value.merge? more) := rfl
      rw [hmerge]
      cases hput : Value.put? (Place.ofName entry.1) entry.2 root with
      | none =>
          exact .inr ⟨rfl, entry, List.mem_cons_self, Value.exists_isRemote_of_put?_eq_none hput⟩
      | some root₁ =>
          have h₁ := h.put? (hregular entry List.mem_cons_self) hput
          simp only [Setting.orBelow_value?_cons, Option.bind_some]
          rcases ih h₁ fun other hother => hregular other (List.mem_cons_of_mem _ hother) with
            hlaid | ⟨hnone, other, hother, hastray⟩
          · exact .inl hlaid
          · exact .inr ⟨hnone, other, List.mem_cons_of_mem _ hother, hastray⟩

/-! ### Variables -/

/-- Of values none of which is a table without members the last one counts. -/
theorem Value.orBelowAll_none_eq_getLast? {values : List Value}
    (h : ∀ value ∈ values, value ≠ .table []) : orBelowAll values none = values.getLast? := by
  induction values using List.reverseRecOn with
  | nil => rfl
  | append_singleton values value =>
      rw [orBelowAll, List.foldl_append, List.getLast?_concat]
      exact orBelow_some (h value (by simp)) _

/-- No variable means a table. -/
theorem valueOf_ne_table (text : String) (members : List (String × Value)) :
    Environment.valueOf text ≠ .table members := by
  rw [Environment.valueOf]
  intro h
  split at h
  · cases h
  · split at h
    · cases h
    · split at h
      · cases h
      · split at h <;> cases h

section

variable {name : String} {more : Environment}

/-- A variable that is for no setting gives none. -/
theorem settings_cons_of_none (h : Environment.settingName? name = none) (text : String) :
    Environment.settings ((name, text) :: more) = Environment.settings more := by
  rw [Environment.settings, List.filterMap_cons_none]
  · rfl
  · simp [h]

/-- A variable that is for a setting gives its value. -/
theorem settings_cons_of_some {key : String} (h : Environment.settingName? name = some key)
    (text : String) :
    Environment.settings ((name, text) :: more) =
      (key, Environment.valueOf text) :: Environment.settings more := by
  rw [Environment.settings, List.filterMap_cons_some]
  · rfl
  · simp [h]

end

/-- A character that does not begin two underscores stands for itself. -/
theorem withPoints_cons {c : Char} {rest : List Char}
    (h : ∀ more, c = '_' → rest = '_' :: more → False) :
    Environment.withPoints (c :: rest) = c :: Environment.withPoints rest := by
  rw [Environment.withPoints]
  exact h

/-- A character of a name is spelled by itself, or by two underscores if it is a point. -/
theorem withPoints_eq_cons {cs name : List Char} {c : Char}
    (h : Environment.withPoints cs = c :: name) :
    ∃ rest, Environment.withPoints rest = name ∧
      (cs = c :: rest ∨ c = '.' ∧ cs = '_' :: '_' :: rest) := by
  fun_cases Environment.withPoints cs with
  | case1 rest =>
      rw [Environment.withPoints] at h
      obtain ⟨rfl, hrest⟩ := List.cons.inj h
      exact ⟨rest, hrest, .inr ⟨rfl, rfl⟩⟩
  | case2 c' rest hne =>
      rw [withPoints_cons hne] at h
      obtain ⟨rfl, hrest⟩ := List.cons.inj h
      exact ⟨rest, hrest, .inl rfl⟩
  | case3 => simp [Environment.withPoints] at h

/-- A name without points is spelled by itself alone. -/
theorem eq_of_withPoints_eq {cs name : List Char} (h : Environment.withPoints cs = name)
    (hname : '.' ∉ name) : cs = name := by
  induction name generalizing cs with
  | nil =>
      fun_cases Environment.withPoints cs with
      | case1 rest => simp [Environment.withPoints] at h
      | case2 c rest hne => simp [withPoints_cons hne] at h
      | case3 => rfl
  | cons c name ih =>
      obtain ⟨hc, hname⟩ := not_or.mp (List.mem_cons.not.mp hname)
      obtain ⟨rest, hrest, rfl | ⟨rfl, rfl⟩⟩ := withPoints_eq_cons h
      · rw [ih hrest hname]
      · exact absurd rfl hc

/-- A name with one point can be spelled with two underscores for it. -/
theorem eq_or_eq_of_withPoints_eq {cs group field : List Char}
    (h : Environment.withPoints cs = group ++ '.' :: field) (hgroup : '.' ∉ group)
    (hfield : '.' ∉ field) :
    cs = group ++ '_' :: '_' :: field ∨ cs = group ++ '.' :: field := by
  induction group generalizing cs with
  | nil =>
      obtain ⟨rest, hrest, rfl | ⟨-, rfl⟩⟩ := withPoints_eq_cons h
      · exact .inr (congrArg ('.' :: ·) (eq_of_withPoints_eq hrest hfield))
      · exact .inl (congrArg ('_' :: '_' :: ·) (eq_of_withPoints_eq hrest hfield))
  | cons c group ih =>
      obtain ⟨hc, hgroup⟩ := not_or.mp (List.mem_cons.not.mp hgroup)
      obtain ⟨rest, hrest, rfl | ⟨rfl, rfl⟩⟩ := withPoints_eq_cons h
      · exact (ih hrest hgroup).imp (congrArg (c :: ·)) (congrArg (c :: ·))
      · exact absurd rfl hc

namespace Setting

/-- The name of the variable for a setting. -/
def variableName : Setting → String
  | url => "QANDA__DATABASE__URL"
  | maxConnections => "QANDA__DATABASE__MAX_CONNECTIONS"
  | minConnections => "QANDA__DATABASE__MIN_CONNECTIONS"
  | requiredTag => "QANDA__SITE__REQUIRED_TAG"

/-- Whether a variable is for a setting: its name is that of the setting's variable in any case,
maybe with a point between section and name. -/
def isFor (setting : Setting) (name : String) : Bool :=
  Text.lowerAscii name == Text.lowerAscii setting.variableName ||
    Text.lowerAscii name == Environment.settingStart ++ setting.key

/-- **The value that the variables give a setting**, the last one that is for it. -/
def valueIn? (setting : Setting) (env : Environment) : Option Value :=
  (env.filter fun v => setting.isFor v.1).getLast?.map fun v => Environment.valueOf v.2

/-- **A variable is for a setting** exactly if its name gives the setting's key. -/
theorem isFor_iff {setting : Setting} {name : String} :
    setting.isFor name = true ↔ Environment.settingName? name = some setting.key := by
  have hkey : setting.key.toList = setting.group.toList ++ '.' :: setting.field.toList := by
    cases setting <;> rfl
  have hvariable : (Text.lowerAscii setting.variableName).toList =
      Environment.settingStart.toList ++
        (setting.group.toList ++ '_' :: '_' :: setting.field.toList) := by
    cases setting <;> decide
  have hpoints : '.' ∉ setting.group.toList ∧ '.' ∉ setting.field.toList := by
    cases setting <;> decide
  rw [isFor, Bool.or_eq_true, beq_iff_eq, beq_iff_eq]
  constructor
  · rintro (hname | hname) <;> rw [Environment.settingName?, hname] <;> cases setting <;> decide
  · intro h
    obtain ⟨rest, hrest, hspelled⟩ := Option.map_eq_some_iff.mp h
    have hlower := Text.append_of_afterPrefix? hrest
    have hpointed : Environment.withPoints rest =
        setting.group.toList ++ '.' :: setting.field.toList := by
      rw [← hkey, ← hspelled, String.toList_ofList]
    refine (eq_or_eq_of_withPoints_eq hpointed hpoints.1 hpoints.2).imp ?_ ?_ <;> rintro rfl
    · exact String.toList_inj.mp (hlower.trans hvariable.symm)
    · refine String.toList_inj.mp (hlower.trans ?_)
      rw [String.toList_append, hkey]

/-- A variable gives a setting its value if it is for it. -/
theorem given_valueOf (setting : Setting) (key text : String) :
    setting.given (key, Environment.valueOf text) =
      if key = setting.key then [Environment.valueOf text] else [] := by
  have hmembers : (Environment.valueOf text).members = [] := by
    cases hvalue : Environment.valueOf text with
    | table members => exact absurd hvalue (valueOf_ne_table text members)
    | _ => rfl
  rw [given, hmembers]
  split
  · rfl
  · split <;> rfl

/-- The variables give a setting what they give as a layer. -/
theorem value?_settings (setting : Setting) (env : Environment) :
    setting.value? env.settings = setting.valueIn? env := by
  have hgiven : env.settings.flatMap setting.given =
      (env.filter fun v => setting.isFor v.1).map fun v => Environment.valueOf v.2 := by
    induction env with
    | nil => rfl
    | cons v more ih =>
        obtain ⟨name, text⟩ := v
        rw [List.filter_cons]
        cases hname : Environment.settingName? name with
        | none =>
            have hfor : ¬ setting.isFor name = true := by simp [isFor_iff, hname]
            rw [settings_cons_of_none hname, if_neg hfor]
            exact ih
        | some key =>
            rw [settings_cons_of_some hname, List.flatMap_cons, given_valueOf]
            by_cases hkey : key = setting.key
            · have hfor : setting.isFor name = true := by rw [isFor_iff, hname, hkey]
              rw [if_pos hkey, if_pos hfor, List.map_cons]
              exact congrArg (Environment.valueOf text :: ·) ih
            · have hfor : ¬ setting.isFor name = true := by simpa [isFor_iff, hname] using hkey
              rw [if_neg hkey, if_neg hfor]
              exact ih
  rw [value?, hgiven, Value.orBelowAll_none_eq_getLast?, valueIn?, List.getLast?_map]
  intro value hvalue
  obtain ⟨v, -, rfl⟩ := List.mem_map.mp hvalue
  exact valueOf_ne_table v.2 []

end Setting

end TagTimeline.Config
