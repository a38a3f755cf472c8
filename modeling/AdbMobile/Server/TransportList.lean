import AdbMobile.Server.HostReplies

/-!
# The list of transports

`list_transports` writes a line for each transport. What a device says of itself is part of the
line, so `sanitize` replaces newlines, and the id stands at the end, where those who parse the
output look for it by scanning backwards.

The lines are got back from the text by splitting it, one for each transport, in order of type and
serial (`listTransports_lines`). The id is got back from a line, whatever the device says of itself,
for no decimal number has a space in it (`idField_last`).
-/

namespace AdbMobile

open ByteString

/-! ## The order -/

/-- The order of the list: by type, and then by serial. -/
def ListedTransport.InOrder (x y : ListedTransport) : Prop :=
  x.type.rank < y.type.rank ∨ x.type = y.type ∧ ¬ y.serial < x.serial

namespace ListedTransport

theorem rank_injective {x y : TransportType} (h : x.rank = y.rank) : x = y := by
  cases x <;> cases y <;> first | rfl | cases h

/-- Two transports are in order where the second is not before the first. -/
theorem not_before_iff (x y : ListedTransport) : (!y.before x) = true ↔ x.InOrder y := by
  rw [Bool.not_eq_true', ← Bool.not_eq_true, before, InOrder]
  by_cases htype : y.type = x.type
  · rw [if_neg (not_not.mpr htype), decide_eq_true_eq, htype]
    simp
  · have hrank : y.type.rank ≠ x.type.rank := fun h => htype (rank_injective h)
    rw [if_pos htype, decide_eq_true_eq]
    constructor
    · exact fun h => .inl (by omega)
    · rintro (h | ⟨h, -⟩)
      · omega
      · exact absurd h.symm htype

/-- Two transports are in order one way or the other. -/
theorem inOrder_total (x y : ListedTransport) : x.InOrder y ∨ y.InOrder x := by
  unfold InOrder
  by_cases htype : x.type = y.type
  · obtain h | h := List.le_total x.serial y.serial
    · exact .inl (.inr ⟨htype, h⟩)
    · exact .inr (.inr ⟨htype.symm, h⟩)
  · have hrank : x.type.rank ≠ y.type.rank := fun h => htype (rank_injective h)
    omega

theorem InOrder.trans {x y z : ListedTransport} (h : x.InOrder y) (h' : y.InOrder z) :
    x.InOrder z := by
  obtain h | ⟨htype, hserial⟩ := h
  · obtain h' | ⟨htype', -⟩ := h'
    · exact .inl (h.trans h')
    · exact .inl (htype' ▸ h)
  · obtain h' | ⟨htype', hserial'⟩ := h'
    · exact .inl (htype ▸ h')
    · refine .inr ⟨htype.trans htype', ?_⟩
      exact List.le_trans (show x.serial ≤ y.serial from hserial) hserial'

end ListedTransport

/-! ## The lines -/

/-- A sanitized value has no newline. -/
theorem newline_not_mem_sanitize (alphanumeric : Bool) (s : Bytes) :
    10 ∉ sanitize alphanumeric s := by
  intro hmem
  obtain ⟨c, -, hc⟩ := List.mem_map.mp hmem
  by_cases hreplaced : (if alphanumeric then !isAlnum c else c = 10) = true
  · rw [if_pos hreplaced] at hc
    exact absurd hc (by decide)
  · -- A newline is replaced, be it for what it is or for not being alphanumeric.
    rw [if_neg hreplaced] at hc
    subst hc
    cases alphanumeric with
    | false => exact hreplaced (by decide)
    | true => exact hreplaced (by decide)

theorem newline_not_mem_transportInfo {key : Bytes} (hkey : 10 ∉ key) (value : Bytes)
    (alphanumeric : Bool) : 10 ∉ transportInfo key value alphanumeric := by
  unfold transportInfo
  split
  · exact List.not_mem_nil
  · have hspace : (10 : UInt8) ∉ lit " " := by decide
    simp only [List.mem_append, not_or]
    exact ⟨⟨hspace, hkey⟩, newline_not_mem_sanitize alphanumeric value⟩

theorem newline_not_mem_cString {s : Bytes} (h : 10 ∉ s) : 10 ∉ cString s := fun hmem =>
  h ((cString_isPrefix s).subset hmem)

theorem newline_not_mem_decimal (n : ℕ) : 10 ∉ decimal n := fun hmem =>
  absurd (decimal_digit hmem) (by decide)

theorem space_not_mem_decimal (n : ℕ) : 32 ∉ decimal n := fun hmem =>
  absurd (decimal_digit hmem) (by decide)

section Text

variable (env : HostRequestEnv)

/-- The line of a transport, without the newline at its end. -/
def transportText (longListing : Bool) (t : ListedTransport) : Bytes :=
  (transportLine env longListing t).dropLast

/-- What a long line says before the id. -/
def transportNames (t : ListedTransport) : Bytes :=
  (cString (if t.serial = [] then lit "(no serial number)" else t.serial)).rightpad 22 32 ++
    lit " " ++ cString (stateText env t.connectionState) ++
      transportInfo [] t.devpath false ++ transportInfo (lit "product:") t.product false ++
      transportInfo (lit "model:") t.model true ++ transportInfo (lit "device:") t.device false

theorem transportLine_eq (longListing : Bool) (t : ListedTransport) :
    transportLine env longListing t = transportText env longListing t ++ [10] := by
  rw [transportText, transportLine]
  exact congrArg (· ++ [10]) List.dropLast_concat.symm

theorem transportText_short (t : ListedTransport) : transportText env false t =
    (if t.serial = [] then lit "(no serial number)" else t.serial) ++ lit "\t" ++
      stateText env t.connectionState := by
  rw [transportText, transportLine]
  exact List.dropLast_concat

theorem transportText_long (t : ListedTransport) : transportText env true t =
    transportNames env t ++ lit " transport_id:" ++ decimal t.id.toNat := by
  rw [transportText, transportLine]
  exact List.dropLast_concat

variable {env}

/-- No name of a state has a newline. -/
theorem newline_not_mem_stateText (hnoPerm : 10 ∉ env.noPermissionsShortHelp)
    (state : ConnectionState) : 10 ∉ stateText env state := by
  cases state <;> first | exact hnoPerm | (show (10 : UInt8) ∉ lit _; decide)

/-- A line has no newline but the one at its end. -/
theorem newline_not_mem_transportText (hnoPerm : 10 ∉ env.noPermissionsShortHelp)
    {t : ListedTransport} (hserial : 10 ∉ t.serial) (longListing : Bool) :
    10 ∉ transportText env longListing t := by
  have hstate := newline_not_mem_stateText hnoPerm t.connectionState
  have hname : 10 ∉ (if t.serial = [] then lit "(no serial number)" else t.serial) := by
    split
    · decide
    · exact hserial
  cases longListing with
  | false =>
    have htab : (10 : UInt8) ∉ lit "\t" := by decide
    rw [transportText_short]
    simp only [List.mem_append, not_or]
    exact ⟨⟨hname, htab⟩, hstate⟩
  | true =>
    have hpad : 10 ∉ (cString (if t.serial = [] then lit "(no serial number)" else
        t.serial)).rightpad 22 32 := by
      rw [List.rightpad, List.mem_append, not_or]
      refine ⟨newline_not_mem_cString hname, fun hmem => ?_⟩
      exact absurd (List.eq_of_mem_replicate hmem) (by decide)
    have hspace : (10 : UInt8) ∉ lit " " := by decide
    have hid : (10 : UInt8) ∉ lit " transport_id:" := by decide
    rw [transportText_long, transportNames]
    simp only [List.mem_append, not_or]
    exact ⟨⟨⟨⟨⟨⟨⟨⟨hpad, hspace⟩, newline_not_mem_cString hstate⟩,
      newline_not_mem_transportInfo List.not_mem_nil _ _⟩,
      newline_not_mem_transportInfo (by decide) _ _⟩,
      newline_not_mem_transportInfo (by decide) _ _⟩,
      newline_not_mem_transportInfo (by decide) _ _⟩, hid⟩, newline_not_mem_decimal _⟩

/-- The id is what follows the last `transport_id:` of a long line. -/
theorem idField_last (t : ListedTransport) :
    AfterLast (lit " transport_id:") (transportText env true t) (decimal t.id.toNat) := by
  rw [transportText_long]
  exact afterLast_append (show 32 ∉ lit "transport_id:" by decide) (space_not_mem_decimal _)
    (transportNames env t)

end Text

/-- The text of a list: the lines got back from it are those of the transports, in order of type and
serial, each with a newline behind it; the id of a transport is got back from its long line. -/
structure ParsesBack (env : HostRequestEnv) (list : List ListedTransport) (longListing : Bool)
    (sorted : List ListedTransport) : Prop where
  perm : sorted.Perm list
  inOrder : sorted.Pairwise ListedTransport.InOrder
  lines : split 10 (listTransports env list longListing) =
    sorted.map (transportText env longListing) ++ [[]]
  text : ∀ t ∈ sorted, transportLine env longListing t = transportText env longListing t ++ [10]
  id : longListing = true → ∀ t ∈ sorted,
    AfterLast (lit " transport_id:") (transportText env longListing t) (decimal t.id.toNat)

/-- The device list can be parsed back, where no serial and no name of a state has a newline. -/
theorem listTransports_lines (env : HostRequestEnv) (hnoPerm : 10 ∉ env.noPermissionsShortHelp)
    (list : List ListedTransport) (hserials : ∀ t ∈ list, 10 ∉ t.serial) (longListing : Bool) :
    ∃ sorted, ParsesBack env list longListing sorted := by
  have hperm := List.mergeSort_perm list fun x y => !y.before x
  have hsorted : (list.mergeSort fun x y => !y.before x).Pairwise fun x y => !y.before x :=
    List.pairwise_mergeSort
      (fun x y z h h' => (x.not_before_iff z).mpr
        (((x.not_before_iff y).mp h).trans ((y.not_before_iff z).mp h')))
      (fun x y => by
        rw [Bool.or_eq_true, x.not_before_iff, y.not_before_iff]
        exact x.inOrder_total y) list
  refine ⟨_, hperm, hsorted.imp fun h => (ListedTransport.not_before_iff _ _).mp h, ?_,
    fun t _ => transportLine_eq env longListing t, fun hlong t _ => hlong ▸ idField_last t⟩
  have htext : listTransports env list longListing =
      (list.mergeSort fun x y => !y.before x).flatMap fun t =>
        transportText env longListing t ++ [10] := by
    simp only [listTransports, ← transportLine_eq]
  rw [htext]
  exact split_lines fun t ht =>
    newline_not_mem_transportText hnoPerm (hserials t (hperm.mem_iff.mp ht)) longListing

/-- A device that calls itself by an id and a newline, and another one. -/
def impostors : List ListedTransport :=
  [{ (Host.initial false).transports 0 with
      type := .usb, serial := lit "B", address := 0, id := 11, devpath := lit "usb:1",
      device := lit "x transport_id:7\ny" },
    { (Host.initial false).transports 0 with
      type := .usb, serial := lit "A", address := 1, id := 12, devpath := [] }]

/-- The list of a device that imitates the last field. -/
theorem impostors_parse : ∃ sorted, ParsesBack .plain impostors true sorted := by
  refine listTransports_lines .plain (show 10 ∉ lit "no permissions" by decide) impostors ?_ true
  intro t ht
  simp only [impostors, List.mem_cons, List.not_mem_nil, or_false] at ht
  obtain rfl | rfl := ht
  · show (10 : UInt8) ∉ lit "B"
    decide
  · show (10 : UInt8) ∉ lit "A"
    decide

end AdbMobile
