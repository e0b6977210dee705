import VendorCli.Proofs.Ipv4.Notation
import VendorCli.Proofs.Registry.Refusals
/-!
# Records and their values

A record is exchanged as a structured value, an object with a field for every setting that it has.
Decoding that object gives back the record, whatever its texts and numbers are
(`Interface.ofJson_toJson`, `HostAddress.ofJson_toJson`, `BgpGlobal.ofJson_toJson`).

The records have this in common: the object has declared fields only, each once and without a fault,
so all of them are selected as they stand (`Shape.ofMapping_eq_ok`), and each is read as it was
written. The other way round, a field that is selected from a mapping is the first of its name there
(`Shape.lookup?_of_ofMapping`), so a value that is a record has the fields that a writer insists on
(`Interface.record_eq_ok_iff`).
-/

namespace VendorCli

open Document

/-- A field of the document is that of the value. -/
theorem Json.lookup?_fieldsToDocument (name : Text) (fields : List (Text × Json)) :
    lookup? name (Json.fieldsToDocument fields) = (lookup? name fields).map Json.toDocument := by
  induction fields with
  | nil => rfl
  | cons kv rest ih =>
    obtain ⟨n, v⟩ := kv
    rw [Json.fieldsToDocument, lookup?_cons, lookup?_cons, ih]
    split <;> rfl

theorem Document.toNat_number {limit n : Nat} (h : n ≤ limit) (expected : Text) :
    (number (.integer n)).toNat limit expected = .ok n :=
  if_pos h

theorem Decoded.fault?_of_ok {α : Type} {r : Decoded α} {a : α} (h : r = .ok a) :
    r.fault? = none := by
  rw [h, Decoded.fault?]

/-! ### Selecting fields -/

namespace Shape

variable {s : Shape} {seen : Selected} {fields : List (Text × Document)}

/-- The names of the fields that have to be there. -/
def requiredNames (s : Shape) : List Text :=
  (s.fields.filter fun f => !f.optional).map Field.name

/-- Fields that are declared, new and without a fault are added to what was selected before. -/
theorem ofMapping_eq_ok
    (hfields : ∀ kv ∈ fields, ∃ f, s.fields.find? (fun f => f.name = kv.1) = some f ∧
      f.fault? kv.2 = none)
    (honce : ((seen ++ fields).map Prod.fst).Nodup)
    (hall : ∀ name ∈ s.requiredNames, name ∈ (seen ++ fields).map Prod.fst) :
    s.ofMapping seen fields = .ok (seen ++ fields) := by
  -- on the fields that are left, those before having been selected
  induction fields generalizing seen with
  | nil =>
    rw [List.append_nil] at hall ⊢
    have hnone : s.fields.find? (fun f => !f.optional && (lookup? f.name seen).isNone) = none := by
      rw [List.find?_eq_none]
      intro f hf hmissing
      rw [Bool.and_eq_true, Option.isNone_iff_eq_none, lookup?_eq_none_iff] at hmissing
      exact hmissing.2 (hall f.name (List.mem_map_of_mem (List.mem_filter.mpr ⟨hf, hmissing.1⟩)))
    rw [ofMapping, hnone]
  | cons kv rest ih =>
    obtain ⟨name, d⟩ := kv
    obtain ⟨f, hf, hfault⟩ := hfields _ List.mem_cons_self
    have hnew : lookup? name seen = none := by
      rw [lookup?_eq_none_iff]
      intro hmem
      rw [List.map_append, List.map_cons] at honce
      exact (List.nodup_append.mp honce).2.2 _ hmem _ List.mem_cons_self rfl
    have happend : seen ++ [(name, d)] ++ rest = seen ++ (name, d) :: rest := by simp
    rw [ofMapping, hf]
    dsimp only
    rw [hnew, if_neg (by simp), hfault]
    dsimp only
    rw [ih (fun kv hkv => hfields kv (List.mem_cons_of_mem _ hkv)) (by rwa [happend])
      (by rwa [happend]), happend]

/-- A declared field has the value that was selected for it before, or else the first one that the
mapping has for it. -/
theorem lookup?_of_ofMapping {sel : Selected} {name : Text} (hname : ∃ f ∈ s.fields, f.name = name)
    (h : s.ofMapping seen fields = .ok sel) :
    lookup? name sel = (lookup? name seen).or (lookup? name fields) := by
  -- on the fields that are left; a field that was selected before is not selected again
  induction fields generalizing seen with
  | nil =>
    rw [ofMapping] at h
    split at h
    · cases h
    · cases h
      rw [lookup?_nil, Option.or_none]
  | cons kv rest ih =>
    obtain ⟨n, v⟩ := kv
    rw [ofMapping] at h
    rw [lookup?_cons]
    split at h
    · -- an undeclared field is passed over, and has another name
      next hundeclared =>
      obtain ⟨f, hf, hfname⟩ := hname
      have hne : n ≠ name := by
        rintro rfl
        exact List.find?_eq_none.mp hundeclared f hf (decide_eq_true hfname)
      rw [if_neg hne]
      exact ih h
    · split at h
      · cases h
      · next hnew =>
        split at h
        · cases h
        · rw [ih h, lookup?_append, lookup?_cons, lookup?_nil]
          by_cases hn : n = name
          · subst hn
            rw [Option.not_isSome_iff_eq_none.mp hnew]
            simp
          · simp [hn]

/-- **Mappings without faults.** If all fields of a mapping are declared, each once and without a
fault, and none is missing, then they are all selected as they stand. -/
theorem select_eq_ok
    (hfields : ∀ kv ∈ fields, ∃ f, s.fields.find? (fun f => f.name = kv.1) = some f ∧
      f.fault? kv.2 = none)
    (honce : (fields.map Prod.fst).Nodup)
    (hall : ∀ name ∈ s.requiredNames, name ∈ fields.map Prod.fst) :
    s.select (.mapping fields) = .ok fields :=
  ofMapping_eq_ok hfields honce hall

/-- A declared field that is selected is the first of its name. -/
theorem lookup?_of_select {sel : Selected} {name : Text} (hname : ∃ f ∈ s.fields, f.name = name)
    (h : s.select (.mapping fields) = .ok sel) : lookup? name sel = lookup? name fields :=
  lookup?_of_ofMapping hname h

end Shape

namespace Selected

variable {α : Type} {s : Selected} {name : Text}

theorem get_of_lookup? {d : Document} (h : lookup? name s = some d)
    (decode : Document → Decoded α) : s.get name decode = decode d := by
  rw [get, h]

theorem getD_of_lookup? {d : Document} (h : lookup? name s = some d)
    (decode : Document → Decoded α) (default : α) : s.getD name decode default = decode d := by
  rw [getD, h]

/-- A setting that may be left out is read as it was written. -/
theorem getD_toOption {encode : α → Document} {decode : Document → Decoded α} {o : Option α}
    (h : lookup? name s = o.map encode) (hnull : ∀ a, (encode a).isNull = false)
    (hdecode : ∀ a, decode (encode a) = .ok a) :
    s.getD name (toOption decode) none = .ok o := by
  rw [getD, h]
  cases o with
  | none => rfl
  | some a =>
    change toOption decode (encode a) = _
    rw [toOption, if_neg (by simp [hnull]), hdecode]
    rfl

end Selected

/-! ### Interfaces -/

theorem InterfaceKind.ofDocument_name (k : InterfaceKind) :
    ofDocument (.string k.name) = .ok k := by
  cases k <;> rfl

namespace Interface

/-- An MTU is decoded as it was written. -/
theorem mtuOfDocument_toNat (m : UInt16) : mtuOfDocument (.number (.integer m.toNat)) = .ok m := by
  -- a number of sixteen bits is within the limit
  have hlt := m.toNat_lt
  rw [mtuOfDocument, toNat_number (by rw [Decimal.max16]; omega)]
  exact congrArg Except.ok UInt16.ofNat_toNat

/-- The fields of a record, sorted by name. -/
def fieldsOf (i : Interface) : Selected :=
  (i.description.map fun t => (("description" : Text), string t)).toList
    ++ [(("enabled" : Text), Document.bool i.enabled)]
    ++ (i.mtu.map fun m => (("mtu" : Text), number (.integer m.toNat))).toList
    ++ [(("name" : Text), string i.name), (("type" : Text), string i.kind.name)]

theorem toDocument_toJson (i : Interface) : i.toJson.toDocument = .mapping i.fieldsOf := by
  obtain ⟨name, kind, description, mtu, enabled⟩ := i
  cases description <;> cases mtu <;> rfl

/-- All fields of a record are selected. -/
theorem select_fieldsOf (i : Interface) : shape.select (.mapping i.fieldsOf) = .ok i.fieldsOf := by
  refine Shape.select_eq_ok ?_ ?_ ?_
  · -- each of the five fields is declared, and its value has no fault
    intro kv hkv
    simp only [fieldsOf, List.mem_append, Option.mem_toList, Option.map_eq_some_iff, List.mem_cons,
      List.not_mem_nil, or_false] at hkv
    rcases hkv with ((⟨t, -, rfl⟩ | rfl) | ⟨m, -, rfl⟩) | rfl | rfl
    · exact ⟨_, rfl, rfl⟩
    · exact ⟨_, rfl, rfl⟩
    · have hmtu := congrArg (Except.map some) (mtuOfDocument_toNat m)
      exact ⟨_, rfl, Decoded.fault?_of_ok hmtu⟩
    · exact ⟨_, rfl, rfl⟩
    · exact ⟨_, rfl, Decoded.fault?_of_ok (InterfaceKind.ofDocument_name i.kind)⟩
  · -- the names are some of five different ones, in their order
    have hsub : (i.fieldsOf.map Prod.fst).Sublist
        (["description", "enabled", "mtu", "name", "type"] : List Text) := by
      obtain ⟨name, kind, description, mtu, enabled⟩ := i
      cases description <;> cases mtu
      · exact .cons _ (.cons_cons _ (.cons _ (.refl _)))
      · exact .cons _ (.refl _)
      · exact .cons_cons _ (.cons_cons _ (.cons _ (.refl _)))
      · exact .refl _
    exact List.Nodup.sublist hsub (by decide)
  · rw [show shape.requiredNames = [("name" : Text)] from rfl, List.forall_mem_singleton, fieldsOf,
      List.map_append]
    exact List.mem_append_right _ List.mem_cons_self

/-- What each field of a record holds. -/
theorem lookup?_fieldsOf (i : Interface) :
    lookup? "name" i.fieldsOf = some (string i.name) ∧
    lookup? "type" i.fieldsOf = some (string i.kind.name) ∧
    lookup? "description" i.fieldsOf = i.description.map string ∧
    lookup? "mtu" i.fieldsOf = i.mtu.map (fun m => number (.integer m.toNat)) ∧
    lookup? "enabled" i.fieldsOf = some (.bool i.enabled) := by
  obtain ⟨name, kind, description, mtu, enabled⟩ := i
  cases description <;> cases mtu <;> exact ⟨rfl, rfl, rfl, rfl, rfl⟩

/-- **Round trip.** The value of a record is decoded as that record. -/
theorem ofJson_toJson (i : Interface) : ofJson i.toJson = .ok i := by
  -- each field is decoded as it was written
  obtain ⟨hname, hkind, hdescription, hmtu, henabled⟩ := i.lookup?_fieldsOf
  rw [ofJson, toDocument_toJson, ofDocument, select_fieldsOf]
  change (Selected.get i.fieldsOf "name" toText >>= _) = _
  rw [Selected.get_of_lookup? hname, Selected.getD_of_lookup? hkind, InterfaceKind.ofDocument_name,
    Selected.getD_toOption hdescription (fun _ => rfl) (fun _ => rfl),
    Selected.getD_toOption hmtu (fun _ => rfl) mtuOfDocument_toNat,
    Selected.getD_of_lookup? henabled]
  rfl

/-- A value that is a record has a name that is not null. -/
theorem missingField?_of_ofJson {v : Json} {i : Interface} (h : ofJson v = .ok i) :
    RecordWriter.missingField? ["name"] v = none := by
  cases v with
  | object fields =>
    obtain ⟨sel, hsel, h⟩ := exists_of_bind_eq_ok h
    obtain ⟨name, hname, -⟩ := exists_of_bind_eq_ok h
    have hdeclared : ∃ f ∈ shape.fields, f.name = "name" := ⟨_, List.mem_cons_self, rfl⟩
    have hlookup := Shape.lookup?_of_select hdeclared hsel
    rw [Json.lookup?_fieldsToDocument] at hlookup
    rw [Selected.get, hlookup] at hname
    rw [RecordWriter.missingField?, List.find?_eq_none, List.forall_mem_singleton]
    cases hfield : lookup? "name" fields with
    | none =>
      rw [hfield] at hname
      cases hname
    | some value =>
      rw [hfield] at hname
      -- null is no text
      cases value with
      | null => cases hname
      | _ => exact Bool.false_ne_true
  | _ => rfl

/-- The writer of interfaces takes a value for a record exactly if it decodes as that record. -/
theorem record_eq_ok_iff {s : Interfaces.Style} {path : ConfigPath} {v : Json} {i : Interface} :
    (Interfaces.writer s).record path v = .ok i ↔ ofJson v = .ok i := by
  refine ⟨decode_of_record path, fun h => ?_⟩
  have hdecode : (Interfaces.writer s).decode v = .ok i := h
  rw [RecordWriter.record, show (Interfaces.writer s).required = [("name" : Text)] from rfl,
    missingField?_of_ofJson h]
  dsimp only
  rw [hdecode]

end Interface

/-! ### Addresses -/

/-- The text of an address is decoded as that address. -/
theorem Ipv4.ofDocument_toText (ip : Ipv4) : ofDocument (.string ip.toText) = .ok ip := by
  have htext : (string ip.toText).toTextAs "IPv4 address" = .ok ip.toText := rfl
  rw [ofDocument, htext]
  simp only [bind, Except.bind, ofText?_toText]

namespace HostAddress

/-- A prefix length is decoded as it was written. -/
theorem lengthOfDocument_toNat (n : UInt8) :
    lengthOfDocument (.number (.integer n.toNat)) = .ok n := by
  have hlt := n.toNat_lt
  rw [lengthOfDocument, toNat_number (by rw [Decimal.max8]; omega)]
  exact congrArg Except.ok UInt8.ofNat_toNat

/-- The fields of a record, sorted by name. -/
def fieldsOf (a : HostAddress) : Selected :=
  [(("ip" : Text), string a.ip.toText),
   (("prefix_length" : Text), number (.integer a.prefixLength.toNat))]

/-- All fields of a record are selected. -/
theorem select_fieldsOf (a : HostAddress) :
    shape.select (.mapping a.fieldsOf) = .ok a.fieldsOf := by
  have hnames : a.fieldsOf.map Prod.fst = (["ip", "prefix_length"] : List Text) := rfl
  refine Shape.select_eq_ok ?_ ?_ ?_
  · rw [fieldsOf, List.forall_mem_cons, List.forall_mem_singleton]
    exact ⟨⟨_, rfl, Decoded.fault?_of_ok (Ipv4.ofDocument_toText a.ip)⟩,
      ⟨_, rfl, Decoded.fault?_of_ok (lengthOfDocument_toNat a.prefixLength)⟩⟩
  · rw [hnames]
    decide
  · rw [hnames]
    decide

/-- **Round trip.** The value of a record is decoded as that record. -/
theorem ofJson_toJson (a : HostAddress) : ofJson a.toJson = .ok a := by
  have hip : lookup? "ip" a.fieldsOf = some (string a.ip.toText) := rfl
  have hlength : lookup? "prefix_length" a.fieldsOf
      = some (number (.integer a.prefixLength.toNat)) := rfl
  rw [ofJson, show a.toJson.toDocument = .mapping a.fieldsOf from rfl, ofDocument, select_fieldsOf]
  change (Selected.get a.fieldsOf "ip" Ipv4.ofDocument >>= _) = _
  rw [Selected.get_of_lookup? hip, Ipv4.ofDocument_toText, Selected.get_of_lookup? hlength,
    lengthOfDocument_toNat]
  rfl

end HostAddress

/-! ### BGP -/

namespace BgpGlobal

/-- The number of a system is decoded as it was written. -/
theorem systemOfDocument_toNat (n : UInt32) :
    systemOfDocument (.number (.integer n.toNat)) = .ok n := by
  have hlt := n.toNat_lt
  rw [systemOfDocument, toNat_number (by rw [Decimal.max32]; omega)]
  exact congrArg Except.ok UInt32.ofNat_toNat

/-- The fields of a record, sorted by name. -/
def fieldsOf (b : BgpGlobal) : Selected :=
  (("as" : Text), number (.integer b.system.toNat))
    :: (b.routerId.map fun id => (("router_id" : Text), string id.toText)).toList

theorem toDocument_toJson (b : BgpGlobal) : b.toJson.toDocument = .mapping b.fieldsOf := by
  obtain ⟨system, routerId⟩ := b
  cases routerId <;> rfl

/-- All fields of a record are selected. -/
theorem select_fieldsOf (b : BgpGlobal) : shape.select (.mapping b.fieldsOf) = .ok b.fieldsOf := by
  refine Shape.select_eq_ok ?_ ?_ ?_
  · intro kv hkv
    simp only [fieldsOf, List.mem_cons, Option.mem_toList, Option.map_eq_some_iff] at hkv
    rcases hkv with rfl | ⟨id, -, rfl⟩
    · exact ⟨_, rfl, Decoded.fault?_of_ok (systemOfDocument_toNat b.system)⟩
    · have hid := congrArg (Except.map some) (Ipv4.ofDocument_toText id)
      exact ⟨_, rfl, Decoded.fault?_of_ok hid⟩
  · have hsub : (b.fieldsOf.map Prod.fst).Sublist (["as", "router_id"] : List Text) := by
      obtain ⟨system, routerId⟩ := b
      cases routerId
      · exact .cons_cons _ (.cons _ (.refl _))
      · exact .refl _
    exact List.Nodup.sublist hsub (by decide)
  · rw [show shape.requiredNames = [("as" : Text)] from rfl, List.forall_mem_singleton]
    exact List.mem_cons_self

/-- **Round trip.** The value of a record is decoded as that record. -/
theorem ofJson_toJson (b : BgpGlobal) : ofJson b.toJson = .ok b := by
  have hsystem : lookup? "as" b.fieldsOf = some (number (.integer b.system.toNat)) := rfl
  have hrouterId : lookup? "router_id" b.fieldsOf = b.routerId.map fun id => string id.toText := by
    cases h : b.routerId <;> simp [fieldsOf, h, lookup?_cons]
  rw [ofJson, toDocument_toJson, ofDocument, select_fieldsOf]
  change (Selected.get b.fieldsOf "as" systemOfDocument >>= _) = _
  rw [Selected.get_of_lookup? hsystem, systemOfDocument_toNat,
    Selected.getD_toOption hrouterId (fun _ => rfl) Ipv4.ofDocument_toText]
  rfl

end BgpGlobal

end VendorCli
