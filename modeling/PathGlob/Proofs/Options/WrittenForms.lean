-- SUMMARY: Options are read back from their fields, with those left out that have their defaults.
import Mathlib.Data.List.Nodup
import PathGlob.Options.Document

/-!
# Written forms of options

`Writes` says which fields can stand for options, whatever their order and whatever other keys are
among them. `ofFields_eq_ok` reads the options back field by field, and objects and arrays are two
ways to come by such fields.
-/

namespace PathGlob.Options

/-- Whether some fields give those of `o`, with all among them that are not as by default. Keys that
options do not have may be there too. -/
structure Writes (o : Options) (fields : List (String × Document)) : Prop where
  written : ∀ f ∈ fields, f.1 ∈ fieldNames → f ∈ o.toFields
  complete : ∀ f ∈ o.toFields, f ∈ fields ∨ f ∈ toFields {}

variable {o : Options} {fields chosen unknown : List (String × Document)} {key : String}
  {d d' : Document}

/-! ## Single fields -/

theorem map_fst_toFields (o : Options) : o.toFields.map Prod.fst = fieldNames := rfl

theorem eq_of_mem_toFields (h : (key, d) ∈ o.toFields) (h' : (key, d') ∈ o.toFields) : d = d' := by
  have hkeys : (o.toFields.map Prod.fst).Nodup := by
    rw [map_fst_toFields]
    decide
  exact congrArg Prod.snd (List.inj_on_of_nodup_map hkeys h h' rfl)

theorem ofDocument_name (policy : DuplicatePolicy) :
    DuplicatePolicy.ofDocument (.string policy.name) = .ok policy := by
  cases policy <;> rfl

theorem readSize_toNat (n : UInt64) : readSize (.integer n.toNat) = .ok n := by
  show (if n.toNat < UInt64.size then _ else _) = _
  rw [if_pos n.toNat_lt_size, UInt64.ofNat_toNat]

theorem readSizeLimit_elim (limit : Option UInt64) :
    readSizeLimit (limit.elim .null fun n => .integer n.toNat) = .ok limit := by
  cases limit with
  | none => rfl
  | some n => exact congrArg (Except.map some) (readSize_toNat n)

/-! ## Reading fields back -/

/-- Looking a field up finds what the options hold, unless that is the default. -/
theorem Writes.lookup (h : o.Writes fields) (hd : (key, d) ∈ o.toFields) :
    fields.lookup key = some d ∨ fields.lookup key = none ∧ (key, d) ∈ toFields {} := by
  have hkey : key ∈ fieldNames := map_fst_toFields o ▸ List.mem_map_of_mem hd
  cases hfound : fields.lookup key with
  | some d' =>
    obtain ⟨before, after, rfl, -⟩ := List.lookup_eq_some_iff.1 hfound
    have hd' : (key, d') ∈ o.toFields := h.written (key, d') (by simp) hkey
    exact .inl (congrArg some (eq_of_mem_toFields hd' hd))
  | none =>
    have habsent : (key, d) ∉ fields := fun hmem => by
      simpa using List.lookup_eq_none_iff.1 hfound (key, d) hmem
    exact .inr ⟨rfl, (h.complete (key, d) hd).resolve_left habsent⟩

/-- A field is read as the options have it, if reading undoes writing. -/
theorem Writes.readField_lookup {α : Type} (h : o.Writes fields) (key : String)
    (write : Options → Document) (read : Document → Except ReadError α)
    (value : Options → α) (hwrite : ∀ o : Options, (key, write o) ∈ o.toFields)
    (hread : ∀ o : Options, read (write o) = .ok (value o)) :
    readField read (value {}) (fields.lookup key) = .ok (value o) := by
  obtain hfound | ⟨hnone, hdefault⟩ := h.lookup (hwrite o)
  · rw [hfound]
    exact hread o
  · have hsame : write o = write {} := eq_of_mem_toFields hdefault (hwrite {})
    rw [hnone]
    calc
      Except.ok (value {}) = read (write {}) := (hread {}).symm
      _ = read (write o) := by rw [hsame]
      _ = .ok (value o) := hread o

theorem ofFields_eq_ok (h : o.Writes fields) :
    ofFields (fun key => fields.lookup key) = .ok o := by
  have hcaseInsensitive := h.readField_lookup "case_insensitive" (fun o => .bool o.caseInsensitive)
    readBool caseInsensitive (fun o => by simp [toFields]) (fun _ => rfl)
  have hduplicates := h.readField_lookup "duplicate_variables"
    (fun o => .string o.duplicates.name) DuplicatePolicy.ofDocument duplicates
    (fun o => by simp [toFields]) (fun o => ofDocument_name o.duplicates)
  have hmaxPatternLength := h.readField_lookup "max_pattern_len"
    (fun o => .integer o.maxPatternLength.toNat) readSize maxPatternLength
    (fun o => by simp [toFields]) (fun o => readSize_toNat o.maxPatternLength)
  have hsizeLimit := h.readField_lookup "size_limit"
    (fun o => o.sizeLimit.elim .null fun n => .integer n.toNat) readSizeLimit sizeLimit
    (fun o => by simp [toFields]) (fun o => readSizeLimit_elim o.sizeLimit)
  simp only [ofFields, hcaseInsensitive, hduplicates, hmaxPatternLength, hsizeLimit]
  rfl

/-! ## Objects and arrays -/

theorem Writes.all (o : Options) : o.Writes o.toFields where
  written _ hf _ := hf
  complete _ hf := .inl hf

/-- Fields chosen among those of `o`, with keys that options do not have, in any order. -/
theorem Writes.of_perm (hchosen : chosen.Sublist o.toFields)
    (hcomplete : ∀ f ∈ o.toFields, f ∉ toFields {} → f ∈ chosen)
    (hunknown : ∀ f ∈ unknown, f.1 ∉ fieldNames) (hperm : fields.Perm (chosen ++ unknown)) :
    o.Writes fields where
  written f hf hkey := by
    obtain hmem | hmem := List.mem_append.1 (hperm.mem_iff.1 hf)
    · exact hchosen.subset hmem
    · exact absurd hkey (hunknown f hmem)
  complete f hf := by
    by_cases hdefault : f ∈ toFields {}
    · exact .inr hdefault
    · have hmem : f ∈ chosen := hcomplete f hf hdefault
      exact .inl (hperm.mem_iff.2 (List.mem_append_left unknown hmem))

/-- The first fields of `o`, if those after them are as by default. -/
theorem Writes.take {k : Nat} (h : ∀ f ∈ o.toFields.drop k, f ∈ toFields {}) :
    o.Writes (o.toFields.take k) where
  written _ hf _ := List.mem_of_mem_take hf
  complete f hf := by
    rw [← List.take_append_drop k o.toFields] at hf
    exact (List.mem_append.1 hf).imp_right (h f)

/-- The items of a shortened list still have the names at its start. -/
theorem zip_map_take {α β : Type} (fields : List (α × β)) (k : Nat) :
    (fields.map Prod.fst).zip ((fields.take k).map Prod.snd) = fields.take k := by
  induction fields generalizing k with
  | nil => simp
  | cons f fields ih =>
    cases k with
    | zero => rfl
    | succ k => simpa using ih k

theorem ofDocument_object (h : o.Writes fields) : ofDocument (.object fields) = .ok o :=
  ofFields_eq_ok h

theorem ofDocument_array {k : Nat} (h : o.Writes (o.toFields.take k)) :
    ofDocument (.array ((o.toFields.take k).map Prod.snd)) = .ok o := by
  have hfields : fieldNames.zip ((o.toFields.take k).map Prod.snd) = o.toFields.take k :=
    zip_map_take o.toFields k
  have hlength : ¬ fieldNames.length < ((o.toFields.take k).map Prod.snd).length := by
    rw [← map_fst_toFields o, List.length_map, List.length_map, List.length_take]
    omega
  simp only [ofDocument, hfields, ofFields_eq_ok h, if_neg hlength]
  rfl

/-- Options are read back from any object that has the fields in which they differ from the
defaults, whatever other fields of theirs and whatever unknown keys it has, in any order. They are
read back from an array of their first fields if those after them are as by default. -/
theorem ofDocument_written (o : Options) :
    (∀ chosen unknown fields : List (String × Document), chosen.Sublist o.toFields →
      (∀ f ∈ o.toFields, f ∉ toFields {} → f ∈ chosen) → (∀ f ∈ unknown, f.1 ∉ fieldNames) →
      fields.Perm (chosen ++ unknown) → ofDocument (.object fields) = .ok o) ∧
    (∀ k, (∀ f ∈ o.toFields.drop k, f ∈ toFields {}) →
      ofDocument (.array ((o.toFields.take k).map Prod.snd)) = .ok o) ∧
    ofDocument o.toDocument = .ok o := by
  refine ⟨fun chosen unknown fields hchosen hcomplete hunknown hperm => ?object,
    fun k hdefault => ?array, ?whole⟩
  case object => exact ofDocument_object (.of_perm hchosen hcomplete hunknown hperm)
  case array => exact ofDocument_array (.take hdefault)
  case whole => exact ofDocument_object (.all o)

/-- Options that no compilation accepts are read back as well. -/
theorem ofDocument_written_invalid :
    let o : Options := { duplicates := .reject, maxPatternLength := 0 }
    ofDocument (.object [("max_pattern_len", .integer 0), ("comment", .array [.null]),
      ("duplicate_variables", .string "Reject")]) = .ok o ∧
    ofDocument (.array [.bool false, .string "Reject", .integer 0]) = .ok o ∧
    ofDocument o.toDocument = .ok o := by
  intro o
  obtain ⟨hobject, harray, hwhole⟩ := ofDocument_written o
  refine ⟨?_, harray 3 ?_, hwhole⟩
  · refine hobject [("duplicate_variables", .string "Reject"), ("max_pattern_len", .integer 0)]
      [("comment", .array [.null])] _ ?_ ?_ ?_ (List.perm_append_singleton _ [_, _])
    · exact .cons _ (.cons_cons _ (.cons_cons _ (.cons _ .slnil)))
    · simp [o, toFields, DuplicatePolicy.name]
    · simp [fieldNames]
  · simp [o, toFields]

end PathGlob.Options
