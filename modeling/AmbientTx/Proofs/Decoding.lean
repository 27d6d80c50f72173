import Mathlib.Data.List.Forall2
import AmbientTx.Context.Config
import AmbientTx.Context.Slot
import AmbientTx.Lock.Page
import AmbientTx.Lock.Record
import AmbientTx.Manager.Options

/-! # Records survive encoding

Whatever is encoded is decoded to itself. A record is written as an object with an entry per field
(`Recorded`), and some entries may be left out. Nothing is lost with them: in the records that leave
anything out, a member is missing exactly where decoding restores the record without it (`Spares`).
The other records leave nothing out (`Complete`).

An id is never made from a blank text, so no blank id comes out of decoding.
-/

namespace AmbientTx

variable {α : Type}

namespace Json

/-! ## Single fields -/

variable {read : Json → Option α} {f : α → Json}

theorem text?_string (s : String) : text? (.string s) = some s :=
  rfl

theorem uint64?_ofUInt64 (n : UInt64) : uint64? (ofUInt64 n) = some n := by
  simpa [uint64?, ofUInt64] using n.toNat_lt

theorem uint32?_ofUInt32 (n : UInt32) : uint32? (ofUInt32 n) = some n := by
  simpa [uint32?, ofUInt32] using n.toNat_lt

theorem int64?_ofInt64 (n : Int64) : int64? (ofInt64 n) = some n := by
  simpa [int64?, ofInt64] using ⟨n.minValue_le_toInt, n.toInt_le⟩

theorem list?_map (inverse : ∀ a, read (f a) = some a) (as : List α) :
    list? read (.array (as.map f)) = some as := by
  unfold list?
  induction as with
  | nil => rfl
  | cons a as ih => simp [readAll, inverse, ih]

theorem optional_some {j : Json} (given : j ≠ .null) :
    optional read (some j) = (read j).map some := by
  cases j with
  | null => exact absurd rfl given
  | _ => rfl

/-- A member that is left out where it is absent. -/
theorem optional_map (inverse : ∀ a, read (f a) = some a) (given : ∀ a, f a ≠ .null)
    (o : Option α) : optional read (o.map f) = some o := by
  cases o with
  | none => rfl
  | some a => rw [Option.map_some, optional_some (given a), inverse, Option.map_some]

/-- A member that is `null` where it is absent. -/
theorem optional_ofOption (inverse : ∀ a, read (f a) = some a) (given : ∀ a, f a ≠ .null)
    (o : Option α) : optional read (some (ofOption f o)) = some o := by
  cases o with
  | none => rfl
  | some a => rw [ofOption, optional_some (given a), inverse, Option.map_some]

/-- A field that may be absent is left out where it was left out. -/
theorem map_eq_none_of_optional {given : Option Json} {o : Option α}
    (reads : optional read given = some o) (missing : given = none) : o.map f = none := by
  subst missing
  cases reads
  rfl

theorem given_of_optional {given : Option Json} {a : α}
    (reads : optional read given = some (some a)) : ∃ j, given = some j ∧ read j = some a := by
  cases given with
  | none => cases reads
  | some j =>
    have present : j ≠ .null := by
      rintro rfl
      cases reads
    rw [optional_some present, Option.map_eq_some_iff] at reads
    obtain ⟨_, reads, same⟩ := reads
    cases same
    exact ⟨j, rfl, reads⟩

theorem ne_none_of_required {given : Option Json} {a : α} (reads : required read given = some a) :
    given ≠ none := by
  rintro rfl
  cases reads

/-! ## Objects of entries -/

/-- The members of a record with these entries; an entry that is `none` is left out. -/
def present : List String → List (Option Json) → List (String × Json)
  | name :: names, some j :: entries => (name, j) :: present names entries
  | _ :: names, none :: entries => present names entries
  | _, _ => []

variable {names : List String} {entries : List (Option Json)}

@[simp] theorem present_nil (entries : List (Option Json)) : present [] entries = [] := by
  cases entries <;> rfl

@[simp] theorem present_cons (name : String) (entry : Option Json) :
    present (name :: names) (entry :: entries) =
      (entry.map (Prod.mk name)).toList ++ present names entries := by
  cases entry <;> rfl

theorem memberOf_eq (name : String) (f : α → Json) (o : Option α) :
    memberOf name f o = ((o.map f).map (Prod.mk name)).toList := by
  cases o <;> rfl

theorem mem_of_mem_present {m : String × Json} (mem : m ∈ present names entries) :
    m.1 ∈ names := by
  induction names, entries using present.induct with
  | case1 name names j entries ih =>
    rcases List.mem_cons.1 mem with rfl | later
    · exact List.mem_cons_self
    · exact List.mem_cons_of_mem _ (ih later)
  | case2 name names entries ih => exact List.mem_cons_of_mem _ (ih mem)
  | case3 names entries => simp [present] at mem

/-- Each name is found with its own entry. -/
theorem map_lookup_present (distinct : names.Nodup) (covers : entries.length = names.length) :
    names.map (fun name => List.lookup name (present names entries)) = entries := by
  induction names generalizing entries with
  | nil => exact (List.length_eq_zero_iff.1 covers).symm
  | cons name names ih =>
    obtain ⟨absent, distinct⟩ := List.nodup_cons.1 distinct
    cases entries with
    | nil => cases covers
    | cons entry entries =>
      have rest := ih distinct (Nat.succ.inj covers)
      cases entry with
      | none =>
        have missing : List.lookup name (present names entries) = none := by
          rw [List.lookup_eq_none_iff]
          intro m mem
          rw [bne_iff_ne]
          rintro rfl
          exact absent (mem_of_mem_present mem)
        rw [List.map_cons, present, missing, rest]
      | some j =>
        have others : ∀ other ∈ names,
            List.lookup other ((name, j) :: present names entries) =
              List.lookup other (present names entries) := by
          intro other mem
          have different : (other == name) = false := by
            simp only [beq_eq_false_iff_ne]
            rintro rfl
            exact absent mem
          simp [List.lookup_cons, different]
        rw [List.map_cons, present, List.lookup_cons_self, List.map_congr_left others, rest]

/-- A record is read from the entries that it was written with. -/
theorem fields?_present (closed : Bool) (distinct : names.Nodup)
    (covers : entries.length = names.length) :
    fields? closed names (.object (present names entries)) = some entries := by
  have known : (present names entries).any (fun m => !names.contains m.1) = false := by
    rw [List.any_eq_false]
    intro m mem
    simp [mem_of_mem_present mem]
  rw [fields?, known, Bool.and_false, if_neg Bool.false_ne_true,
    map_lookup_present distinct covers]

/-- The value without the members of this name. -/
def without (name : String) : Json → Json
  | .object ms => .object (ms.filter fun m => m.1 != name)
  | j => j

theorem lookup_without (name : String) (ms : List (String × Json)) :
    List.lookup name (ms.filter fun m => m.1 != name) = none := by
  rw [List.lookup_eq_none_iff]
  intro m mem
  rw [bne_comm]
  exact (List.mem_filter.1 mem).2

theorem without_of_missing {name : String} {ms : List (String × Json)}
    (missing : List.lookup name ms = none) : (object ms).without name = .object ms := by
  rw [without, List.filter_eq_self.2]
  intro m mem
  rw [bne_comm]
  exact List.lookup_eq_none_iff.1 missing m mem

/-! ## Laws of a record -/

/-- How a record is written and read: encoding writes the entries of its fields, and decoding reads
the record from these entries. -/
structure Recorded (closed : Bool) (names : List String) (encode : α → Json)
    (decode : Json → Option α) (written : α → List (Option Json)) : Prop where
  distinct : names.Nodup
  covers : ∀ a, (written a).length = names.length
  encode_eq : ∀ a, encode a = .object (present names (written a))
  decode_written : ∀ j a, j.fields? closed names = some (written a) → decode j = some a

/-- Encoding is undone by decoding; and what was decoded, however it had been written, survives
being encoded and decoded again. -/
structure Restores (encode : α → Json) (decode : Json → Option α) : Prop where
  decode_encode : ∀ a, decode (encode a) = some a
  again : ∀ j a, decode j = some a → decode (encode a) = some a

/-- Exactly those members are left out without which decoding restores the record. -/
def Spares (names : List String) (encode : α → Json) (decode : Json → Option α) : Prop :=
  ∀ a, ∀ name ∈ names,
    (encode a).get? name = none ↔ decode ((encode a).without name) = some a

/-- No member is left out. -/
def Complete (names : List String) (encode : α → Json) : Prop :=
  ∀ a, ∀ name ∈ names, (encode a).get? name ≠ none

theorem restores_of_inverse {encode : α → Json} {decode : Json → Option α}
    (inverse : ∀ a, decode (encode a) = some a) : Restores encode decode :=
  ⟨inverse, fun _ a _ => inverse a⟩

namespace Recorded

variable {closed : Bool} {names : List String} {encode : α → Json} {decode : Json → Option α}
  {written : α → List (Option Json)}

theorem restores (law : Recorded closed names encode decode written) :
    Restores encode decode := by
  refine restores_of_inverse fun a => law.decode_written _ a ?_
  rw [law.encode_eq]
  exact fields?_present closed law.distinct (law.covers a)

theorem map_get? (law : Recorded closed names encode decode written) (a : α) :
    names.map (fun name => (encode a).get? name) = written a := by
  rw [law.encode_eq]
  exact map_lookup_present law.distinct (law.covers a)

theorem complete (law : Recorded closed names encode decode written)
    (whole : ∀ a, none ∉ written a) : Complete names encode := by
  intro a name mem missing
  refine whole a ?_
  rw [← law.map_get? a, ← missing]
  exact List.mem_map_of_mem mem

/-- If a field that is left out is left out again, then nothing else is. -/
theorem spares (law : Recorded false names encode decode written)
    (keeps : ∀ j entries a, j.fields? false names = some entries → decode j = some a →
      List.Forall₂ (fun given kept => given = none → kept = none) entries (written a)) :
    Spares names encode decode := by
  intro a name mem
  have lookups := law.map_get? a
  have restored := law.restores.decode_encode a
  rw [law.encode_eq] at lookups restored ⊢
  generalize present names (written a) = ms at lookups restored
  constructor
  · intro (missing : List.lookup name ms = none)
    rw [without_of_missing missing]
    exact restored
  · intro decoded
    have kept := keeps _ _ a rfl decoded
    rw [← lookups, List.forall₂_map_left_iff, List.forall₂_map_right_iff,
      List.forall₂_same] at kept
    exact kept name mem (lookup_without name ms)

end Recorded
end Json

open Json

/-! ## The records -/

namespace Xid

theorem ofString?_text (x : Xid) : ofString? x.text = some x :=
  dif_pos x.not_blank

/-- An id is read from its own text, and from nothing else. -/
theorem ofJson?_eq_some_iff {j : Json} {x : Xid} : ofJson? j = some x ↔ j = .string x.text := by
  constructor
  · intro reads
    cases j with
    | string s =>
      obtain ⟨_, given⟩ := Option.dite_none_right_eq_some.1 reads
      cases given
      rfl
    | _ => cases reads
  · rintro rfl
    exact ofString?_text x

theorem restores : Restores toJson ofJson? :=
  restores_of_inverse fun _ => ofJson?_eq_some_iff.2 rfl

end Xid

theorem BranchMode.ofJson?_toJson (m : BranchMode) : ofJson? m.toJson = some m := by
  cases m <;> decide

theorem Timestamp.ofJson?_toJson (t : Timestamp) : ofJson? t.toJson = some t :=
  dif_pos t.in_range

namespace Slot

/-- The entries that a slot is written with. -/
def written (s : Slot) : List (Option Json) :=
  [s.xid.map Xid.toJson, s.mode.map BranchMode.toJson,
   if s.globalLock then some (.bool true) else none, s.timeout.map Json.ofUInt64]

theorem recorded : Recorded false fieldNames toJson ofJson? written where
  distinct := by decide
  covers _ := rfl
  encode_eq s := by
    cases lock : s.globalLock <;> simp [toJson, fieldNames, written, memberOf_eq, lock]
  decode_written j s fields := by
    have xid := optional_map Xid.restores.decode_encode (fun _ => Json.noConfusion) s.xid
    have mode := optional_map BranchMode.ofJson?_toJson (fun _ => Json.noConfusion) s.mode
    have timeout := optional_map uint64?_ofUInt64 (fun _ => Json.noConfusion) s.timeout
    have lock : orDefault false bool? (if s.globalLock then some (.bool true) else none) =
        some s.globalLock := by
      cases s.globalLock <;> rfl
    simp only [ofJson?, fields, written, Option.bind_eq_bind, Option.bind_some, xid, mode, timeout,
      lock, Option.pure_def]

theorem spares : Spares fieldNames toJson ofJson? := by
  refine recorded.spares fun j entries s fields reads => ?_
  simp only [ofJson?, fields, Option.bind_eq_bind, Option.bind_some] at reads
  split at reads
  · simp only [Option.bind_eq_some_iff, Option.pure_def, Option.some.injEq] at reads
    obtain ⟨xid, hxid, mode, hmode, lock, hlock, timeout, htimeout, rfl⟩ := reads
    refine .cons (map_eq_none_of_optional hxid) (.cons (map_eq_none_of_optional hmode)
      (.cons ?_ (.cons (map_eq_none_of_optional htimeout) .nil)))
    rintro rfl
    cases hlock
    rfl
  · cases reads

end Slot

namespace LockQuery

/-- The entries that a query is written with. -/
def written (q : LockQuery) : List (Option Json) :=
  [q.xid.map .string, q.tableName.map .string, q.transactionId.map .string,
   q.branchId.map .string, q.cellNamespace.map .string, q.cluster.map .string,
   q.vgroup.map .string, q.timeStart.map Json.ofInt64, q.timeEnd.map Json.ofInt64,
   some (Json.ofUInt32 q.pageNum), some (Json.ofUInt32 q.pageSize)]

theorem recorded : Recorded false fieldNames toJson ofJson? written where
  distinct := by decide
  covers _ := rfl
  encode_eq q := by simp [toJson, fieldNames, written, memberOf_eq]
  decode_written j q fields := by
    have text (o : Option String) : optional text? (o.map Json.string) = some o :=
      optional_map text?_string (fun _ => Json.noConfusion) o
    have time (o : Option Int64) : optional int64? (o.map Json.ofInt64) = some o :=
      optional_map int64?_ofInt64 (fun _ => Json.noConfusion) o
    simp only [ofJson?, fields, written, Option.bind_eq_bind, Option.bind_some, text, time,
      required, uint32?_ofUInt32, Option.pure_def]

theorem spares : Spares fieldNames toJson ofJson? := by
  refine recorded.spares fun j entries q fields reads => ?_
  simp only [ofJson?, fields, Option.bind_eq_bind, Option.bind_some] at reads
  split at reads
  · simp only [Option.bind_eq_some_iff, Option.pure_def, Option.some.injEq] at reads
    obtain ⟨xid, hxid, table, htable, transaction, htransaction, branch, hbranch, cell, hcell,
      cluster, hcluster, vgroup, hvgroup, start, hstart, finish, hfinish, num, hnum, size, hsize,
      rfl⟩ := reads
    simp only [written, List.forall₂_cons]
    exact ⟨map_eq_none_of_optional hxid, map_eq_none_of_optional htable,
      map_eq_none_of_optional htransaction, map_eq_none_of_optional hbranch,
      map_eq_none_of_optional hcell, map_eq_none_of_optional hcluster,
      map_eq_none_of_optional hvgroup, map_eq_none_of_optional hstart,
      map_eq_none_of_optional hfinish, fun missing => absurd missing (ne_none_of_required hnum),
      fun missing => absurd missing (ne_none_of_required hsize), .nil⟩
  · cases reads

end LockQuery

namespace LockRecord

/-- The entries that a lock record is written with. -/
def written (r : LockRecord) : List (Option Json) :=
  [some (.string r.xid), some (.string r.transactionId), some (.string r.branchId),
   some (.string r.resourceId), some (.string r.tableName), some (.string r.pk),
   some (.string r.rowKey), some r.created.toJson, some r.modified.toJson]

theorem recorded : Recorded false fieldNames toJson ofJson? written where
  distinct := by decide
  covers _ := rfl
  encode_eq r := by simp [toJson, fieldNames, written]
  decode_written j r fields := by
    simp only [ofJson?, fields, written, Option.bind_eq_bind, Option.bind_some, required,
      text?_string, Timestamp.ofJson?_toJson, Option.pure_def]

theorem spares : Spares fieldNames toJson ofJson? := by
  refine recorded.spares fun j entries r fields reads => ?_
  simp only [ofJson?, fields, Option.bind_eq_bind, Option.bind_some] at reads
  split at reads
  · simp only [written, List.forall₂_cons, List.forall₂_nil_left_iff, and_true]
    refine ⟨?_, ?_, ?_, ?_, ?_, ?_, ?_, ?_, ?_⟩ <;>
    · rintro rfl
      simp [required] at reads
  · cases reads

end LockRecord

namespace Page

/-- The entries that a page is written with. -/
def written (f : α → Json) (p : Page α) : List (Option Json) :=
  [some (.array (p.records.map f)), some (Json.ofUInt64 p.total), some (Json.ofUInt32 p.pageNum),
   some (Json.ofUInt32 p.pageSize)]

variable {f : α → Json} {read : Json → Option α}

theorem recorded (inverse : ∀ a, read (f a) = some a) :
    Recorded false fieldNames (toJson f) (ofJson? read) (written f) where
  distinct := by decide
  covers _ := rfl
  encode_eq p := by simp [toJson, fieldNames, written]
  decode_written j p fields := by
    simp only [ofJson?, fields, written, Option.bind_eq_bind, Option.bind_some, required,
      list?_map inverse, uint64?_ofUInt64, uint32?_ofUInt32, Option.pure_def]

theorem spares (inverse : ∀ a, read (f a) = some a) :
    Spares fieldNames (toJson f) (ofJson? read) := by
  refine (recorded inverse).spares fun j entries p fields reads => ?_
  simp only [ofJson?, fields, Option.bind_eq_bind, Option.bind_some] at reads
  split at reads
  · simp only [written, List.forall₂_cons, List.forall₂_nil_left_iff, and_true]
    refine ⟨?_, ?_, ?_, ?_⟩ <;>
    · rintro rfl
      simp [required] at reads
  · cases reads

end Page

namespace ContextConfig

/-- The entries that a configuration is written with. -/
def written (c : ContextConfig) : List (Option Json) :=
  [some (Json.ofOption BranchMode.toJson c.defaultMode),
   some (Json.ofOption Json.ofUInt64 c.defaultTimeout), some (.bool c.traceSpans)]

theorem recorded : Recorded true fieldNames toJson ofJson? written where
  distinct := by decide
  covers _ := rfl
  encode_eq c := by simp [toJson, fieldNames, written]
  decode_written j c fields := by
    have mode :=
      optional_ofOption BranchMode.ofJson?_toJson (fun _ => Json.noConfusion) c.defaultMode
    have timeout := optional_ofOption uint64?_ofUInt64 (fun _ => Json.noConfusion) c.defaultTimeout
    simp only [ofJson?, fields, written, Option.bind_eq_bind, Option.bind_some, mode, timeout,
      orDefault, bool?, Option.pure_def]

theorem complete : Complete fieldNames toJson :=
  recorded.complete fun c => by simp [written]

end ContextConfig

namespace ClientOptions

/-- The entries that options are written with. -/
def written (o : ClientOptions) : List (Option Json) :=
  [some (.string o.application), some (.string o.group), some (Json.ofUInt64 o.defaultTimeout)]

theorem recorded : Recorded true fieldNames toJson ofJson? written where
  distinct := by decide
  covers _ := rfl
  encode_eq o := by simp [toJson, fieldNames, written]
  decode_written j o fields := by
    simp only [ofJson?, fields, written, Option.bind_eq_bind, Option.bind_some, orDefault,
      text?_string, uint64?_ofUInt64, Option.pure_def]

theorem complete : Complete fieldNames toJson :=
  recorded.complete fun o => by simp [written]

end ClientOptions

/-! ## Ids in slots -/

/-- The id in a slot that was read is the text of the slot's first entry. -/
theorem Slot.fields_of_ofJson? {j : Json} {s : Slot} {x : Xid} (reads : ofJson? j = some s)
    (bound : s.xid = some x) :
    ∃ others, j.fields? false fieldNames = some (some (.string x.text) :: others) := by
  unfold ofJson? at reads
  obtain ⟨entries, fields, reads⟩ := Option.bind_eq_some_iff.1 reads
  split at reads
  · obtain ⟨xid, hxid, reads⟩ := Option.bind_eq_some_iff.1 reads
    simp only [Option.bind_eq_bind, Option.bind_eq_some_iff, Option.pure_def,
      Option.some.injEq] at reads
    obtain ⟨mode, -, lock, -, timeout, -, rfl⟩ := reads
    cases bound
    obtain ⟨id, rfl, hid⟩ := given_of_optional hxid
    cases Xid.ofJson?_eq_some_iff.1 hid
    exact ⟨_, fields⟩
  · cases reads

/-- Ids, slots, queries, lock records, pages of them, configurations and options survive encoding
and decoding. A filter, an entry of a slot and the lock flag are left out exactly where decoding
restores the value without them, and configurations and options leave nothing out. What is decoded
holds no blank id: an id is read from a text that is not blank and is that text. -/
theorem Json.records_survive_encoding :
    (Restores Xid.toJson Xid.ofJson? ∧
      Restores Slot.toJson Slot.ofJson? ∧
      Restores LockQuery.toJson LockQuery.ofJson? ∧
      Restores LockRecord.toJson LockRecord.ofJson? ∧
      Restores (Page.toJson LockRecord.toJson) (Page.ofJson? LockRecord.ofJson?) ∧
      Restores ContextConfig.toJson ContextConfig.ofJson? ∧
      Restores ClientOptions.toJson ClientOptions.ofJson?) ∧
    (Spares Slot.fieldNames Slot.toJson Slot.ofJson? ∧
      Spares LockQuery.fieldNames LockQuery.toJson LockQuery.ofJson? ∧
      Spares LockRecord.fieldNames LockRecord.toJson LockRecord.ofJson? ∧
      Spares Page.fieldNames (Page.toJson LockRecord.toJson) (Page.ofJson? LockRecord.ofJson?) ∧
      Complete ContextConfig.fieldNames ContextConfig.toJson ∧
      Complete ClientOptions.fieldNames ClientOptions.toJson) ∧
    (∀ j x, Xid.ofJson? j = some x → j = .string x.text ∧ Text.isBlank x.text = false) ∧
    ∀ j s x, Slot.ofJson? j = some s → s.xid = some x →
      Text.isBlank x.text = false ∧
        ∃ others, j.fields? false Slot.fieldNames = some (some (.string x.text) :: others) := by
  have page := LockRecord.recorded.restores.decode_encode
  refine ⟨⟨Xid.restores, Slot.recorded.restores, LockQuery.recorded.restores,
    LockRecord.recorded.restores, (Page.recorded page).restores, ContextConfig.recorded.restores,
    ClientOptions.recorded.restores⟩, ⟨Slot.spares, LockQuery.spares, LockRecord.spares,
    Page.spares page, ContextConfig.complete, ClientOptions.complete⟩, ?_, ?_⟩
  · intro j x reads
    exact ⟨Xid.ofJson?_eq_some_iff.1 reads, x.not_blank⟩
  · intro j s x reads bound
    exact ⟨x.not_blank, Slot.fields_of_ofJson? reads bound⟩

end AmbientTx
