import AdbMobile.Server.Frame

/-!
# Banners

A device introduces itself with a banner: its type, and properties with their values. The host reads
the type off it, and keeps the product, the model, the device and the features in the transport. The
properties are separated by semicolons, the names of the features by commas, a colon comes before
them all and an equals sign before each value. None of these is escaped where it occurs in a value,
the string is cut at a NUL, and a property that does not look as expected is left out. The features
are reset beforehand, but not the product, the model and the device, which are then those of an
earlier connection.

So a banner carries what was put in exactly when nothing that was put in contains a separator
(`banner_carries_iff`).
-/

namespace AdbMobile

open ByteString

/-- `FeatureSetToString`. -/
def featureSetToString (features : FeatureSet) : Bytes := join 44 features

/-- `cnxn_props`. -/
def cnxnProps : List Bytes :=
  [lit "ro.product.name", lit "ro.product.model", lit "ro.product.device"]

/-- `get_connection_string` of a device, for which `ADB_HOST` is not set. `deviceBanner` is
`adb_device_banner`, and `getProperty` is `android::base::GetProperty` without a default. -/
def getConnectionString (deviceBanner : Bytes) (getProperty : Bytes → Bytes)
    (features : FeatureSet) : Bytes :=
  let connectionProperties := (cnxnProps.map fun prop => prop ++ lit "=" ++ getProperty prop) ++
    [lit "features=" ++ cString (featureSetToString features)]
  cString deviceBanner ++ lit "::" ++ cString (join 59 connectionProperties)

/-- None of these bytes occurs in the string. -/
def Free (bytes : List UInt8) (s : Bytes) : Prop := ∀ c ∈ s, c ∉ bytes

instance (bytes : List UInt8) (s : Bytes) : Decidable (Free bytes s) :=
  List.decidableBAll (fun c => c ∉ bytes) s

/-- What ends a value in a banner: NUL, colon, semicolon and equals sign. -/
def valueEnds : List UInt8 := [0, 58, 59, 61]

/-- What a transport keeps of a device's banner. -/
structure ATransport.Carries (x : ATransport) (getProperty : Bytes → Bytes)
    (features : FeatureSet) : Prop where
  product : x.product = getProperty (lit "ro.product.name")
  model : x.model = getProperty (lit "ro.product.model")
  device : x.device = getProperty (lit "ro.product.device")
  features : x.features = features

/-- Nothing in the banner is taken for a separator, and there is no lone empty name. -/
structure Unambiguous (getProperty : Bytes → Bytes) (features : FeatureSet) : Prop where
  values : ∀ prop ∈ cnxnProps, Free valueEnds (getProperty prop)
  names : ∀ name ∈ features, Free (44 :: valueEnds) name
  ne_empty : features ≠ [[]]

/-! ## Reading a banner back -/

section Read

variable {getProperty : Bytes → Bytes} {features : FeatureSet} {deviceBanner : Bytes}

theorem Free.append {bytes : List UInt8} {s s' : Bytes} (h : Free bytes s) (h' : Free bytes s') :
    Free bytes (s ++ s') :=
  fun c hc => (List.mem_append.mp hc).elim (h c) (h' c)

theorem Free.mono {bytes bytes' : List UInt8} {s : Bytes} (h : Free bytes s)
    (hsub : bytes' ⊆ bytes) : Free bytes' s := fun c hc hmem => h c hc (hsub hmem)

theorem Free.not_mem {bytes : List UInt8} {s : Bytes} (h : Free bytes s) {c : UInt8}
    (hc : c ∈ bytes) : c ∉ s := fun hmem => h c hmem hc

/-- A string that is joined is free of what the pieces and the separator are free of. -/
theorem free_join {bytes : List UInt8} {sep : UInt8} (hsep : sep ∉ bytes) {pieces : List Bytes}
    (h : ∀ p ∈ pieces, Free bytes p) : Free bytes (join sep pieces) := by
  induction pieces with
  | nil => exact fun c hc => absurd hc List.not_mem_nil
  | cons p pieces ih =>
    have hp := h p List.mem_cons_self
    have hpieces := ih fun q hq => h q (List.mem_cons_of_mem p hq)
    cases pieces with
    | nil => simpa [join] using hp
    | cons q pieces =>
      rw [join, List.intercalate_cons_cons]
      exact (hp.append fun c hc => List.mem_singleton.mp hc ▸ hsep).append hpieces

/-- A string without a NUL is its own C string. -/
theorem cString_of_free {bytes : List UInt8} {s : Bytes} (h : Free bytes s) (hnul : 0 ∈ bytes) :
    cString s = s := (cString_eq_self_iff s).mpr (h.not_mem hnul)

/-- A list of names is read back, unless it is a lone empty name, which is read as no name. -/
theorem stringToFeatureSet_featureSetToString (hnames : ∀ name ∈ features, 44 ∉ name)
    (hne : features ≠ [[]]) : stringToFeatureSet (featureSetToString features) = features := by
  by_cases hnil : features = []
  · rw [hnil]
    rfl
  · have hsplit : split 44 (featureSetToString features) = features := split_join hnames hnil
    have hstring : featureSetToString features ≠ [] := by
      intro h
      rw [h] at hsplit
      exact hne hsplit.symm
    rw [stringToFeatureSet, if_neg hstring, hsplit]

/-- A property is read back. -/
theorem split_property {key value : Bytes} (hkey : 61 ∉ key) (hvalue : 61 ∉ value) :
    split 61 (key ++ lit "=" ++ value) = [key, value] := by
  have hcons : key ++ lit "=" ++ value = key ++ 61 :: value := by simp [lit]
  rw [hcons, split_append_of_not_mem hkey, split_eq_singleton_iff.mpr ⟨rfl, hvalue⟩]

/-- A property sets the field of its name. -/
theorem parseBannerProp_property {key value : Bytes} (hkey : 61 ∉ key) (hvalue : 61 ∉ value)
    {delayedAckEnabled : Bool} {x : ATransport} :
    x.parseBannerProp delayedAckEnabled (key ++ lit "=" ++ value) =
      if key = lit "ro.product.name" then { x with product := value }
      else if key = lit "ro.product.model" then { x with model := value }
      else if key = lit "ro.product.device" then { x with device := value }
      else if key = lit "features" then x.setFeatures delayedAckEnabled value
      else x := by
  rw [ATransport.parseBannerProp, split_property hkey hvalue]

/-- The properties of a banner are read back. -/
theorem parseBannerProps_getConnectionString (hbanner : 58 ∉ cString deviceBanner)
    (h : Unambiguous getProperty features) (delayedAckEnabled : Bool) (x : ATransport) :
    (x.parseBannerProps delayedAckEnabled
      (getConnectionString deviceBanner getProperty features)).Carries getProperty features := by
  have hfeatures : Free valueEnds (featureSetToString features) :=
    free_join (by decide) fun name hname => (h.names name hname).mono (List.subset_cons_self _ _)
  have hvalue : ∀ prop ∈ cnxnProps, Free valueEnds (getProperty prop) := h.values
  -- The properties, none of which has a byte that ends a property.
  let properties := (cnxnProps.map fun prop => prop ++ lit "=" ++ getProperty prop) ++
    [lit "features=" ++ featureSetToString features]
  have hproperties : ∀ property ∈ properties, Free [0, 58, 59] property := by
    intro property hproperty
    obtain hproperty | hproperty := List.mem_append.mp hproperty
    · obtain ⟨prop, hprop, rfl⟩ := List.mem_map.mp hproperty
      have hkeys : ∀ prop ∈ cnxnProps, Free [0, 58, 59] (prop ++ lit "=") := by decide
      exact (hkeys prop hprop).append ((hvalue prop hprop).mono (by decide))
    · obtain rfl := List.mem_singleton.mp hproperty
      exact Free.append (by decide) (hfeatures.mono (by decide))
  have hjoin : Free [0, 58] (join 59 properties) :=
    free_join (by decide) fun p hp => (hproperties p hp).mono (by decide)
  have hstring : getConnectionString deviceBanner getProperty features =
      cString deviceBanner ++ 58 :: ([] ++ 58 :: join 59 properties) := by
    rw [getConnectionString, cString_of_free hfeatures (by decide)]
    show cString deviceBanner ++ lit "::" ++ cString (join 59 properties) = _
    rw [cString_of_free hjoin (by decide)]
    simp [lit]
  have hpieces : split 58 (getConnectionString deviceBanner getProperty features) =
      [cString deviceBanner, [], join 59 properties] := by
    rw [hstring, split_append_of_not_mem hbanner, split_append_of_not_mem List.not_mem_nil,
      split_eq_singleton_iff.mpr ⟨rfl, hjoin.not_mem (by decide)⟩]
  have hsplit : split 59 (join 59 properties) = properties :=
    split_join (fun p hp => (hproperties p hp).not_mem (by decide)) (by simp [properties])
  have hnone : properties.filter (· ≠ []) = properties := by
    simp [properties, cnxnProps, lit]
  have hnames := stringToFeatureSet_featureSetToString
    (fun name hname => (h.names name hname).not_mem List.mem_cons_self) h.ne_empty
  -- Each is read back in turn.
  have hequals : ∀ prop ∈ cnxnProps, 61 ∉ getProperty prop := fun prop hprop =>
    (hvalue prop hprop).not_mem (by decide)
  have hread (x : ATransport) : properties.foldl (ATransport.parseBannerProp delayedAckEnabled) x =
      { x.setFeatures delayedAckEnabled (featureSetToString features) with
        product := getProperty (lit "ro.product.name")
        model := getProperty (lit "ro.product.model")
        device := getProperty (lit "ro.product.device") } := by
    have hname := hequals (lit "ro.product.name") (by simp [cnxnProps])
    have hmodel := hequals (lit "ro.product.model") (by simp [cnxnProps])
    have hdevice := hequals (lit "ro.product.device") (by simp [cnxnProps])
    have hset := hfeatures.not_mem (c := 61) (by decide)
    show ((((x.parseBannerProp delayedAckEnabled _).parseBannerProp delayedAckEnabled
      _).parseBannerProp delayedAckEnabled _).parseBannerProp delayedAckEnabled
        (lit "features" ++ lit "=" ++ featureSetToString features)) = _
    rw [parseBannerProp_property (by decide) hname, parseBannerProp_property (by decide) hmodel,
      parseBannerProp_property (by decide) hdevice, parseBannerProp_property (by decide) hset]
    simp [lit, ATransport.setFeatures]
  rw [ATransport.parseBannerProps, hpieces]
  simp only [hsplit, hnone, hread]
  exact ⟨rfl, rfl, rfl, hnames⟩

end Read

/-! ## What can be read -/

section Ambiguous

variable {x x' : ATransport} {prop : Bytes}

/-- The transport has values without separators, or those that it had before, and features that can
be read from a string. -/
structure ATransport.ReadOver (x x' : ATransport) : Prop where
  product : x'.product = x.product ∨ Free valueEnds x'.product
  model : x'.model = x.model ∨ Free valueEnds x'.model
  device : x'.device = x.device ∨ Free valueEnds x'.device
  names : ∀ name ∈ x'.features, Free (44 :: valueEnds) name
  ne_empty : x'.features ≠ [[]]

/-- The names in a string without separators have none, and there is no lone empty one. -/
theorem stringToFeatureSet_free {s : Bytes} (h : Free valueEnds s) :
    (∀ name ∈ stringToFeatureSet s, Free (44 :: valueEnds) name) ∧ stringToFeatureSet s ≠ [[]] := by
  unfold stringToFeatureSet
  split
  · simp
  · rename_i hne
    refine ⟨fun name hname c hc hmem => ?_, fun heq => ?_⟩
    · obtain ⟨hcomma, hsub⟩ := mem_split hname
      obtain rfl | hmem := List.mem_cons.mp hmem
      · exact hcomma hc
      · exact h c (hsub hc) hmem
    · exact hne (split_eq_singleton_iff.mp heq).1.symm

/-- One property more. -/
theorem ATransport.ReadOver.parseBannerProp (hx : x.ReadOver x') (hprop : Free [0, 58, 59] prop)
    (delayedAckEnabled : Bool) : x.ReadOver (x'.parseBannerProp delayedAckEnabled prop) := by
  unfold ATransport.parseBannerProp
  split
  · rename_i key value hsplit
    have hvalue : Free valueEnds value := by
      have hmem : value ∈ split 61 prop := by
        rw [hsplit]
        exact List.mem_cons_of_mem key List.mem_cons_self
      obtain ⟨hequals, hsub⟩ := mem_split hmem
      intro c hc hend
      have hcases : c = 61 ∨ c ∈ ([0, 58, 59] : List UInt8) := by
        simp only [valueEnds, List.mem_cons, List.not_mem_nil, or_false] at hend ⊢
        tauto
      obtain rfl | hother := hcases
      · exact hequals hc
      · exact hprop c (hsub hc) hother
    split_ifs
    · exact { hx with product := .inr hvalue }
    · exact { hx with model := .inr hvalue }
    · exact { hx with device := .inr hvalue }
    · obtain ⟨hnames, hne⟩ := stringToFeatureSet_free hvalue
      exact { hx with names := hnames, ne_empty := hne }
    · exact hx
  · exact hx

/-- All properties of a banner that has no NUL. -/
theorem readOver_parseBannerProps {banner : Bytes} (hnul : 0 ∉ banner) (delayedAckEnabled : Bool)
    (x : ATransport) : x.ReadOver (x.parseBannerProps delayedAckEnabled banner) := by
  have hreset : x.ReadOver (x.setFeatures delayedAckEnabled []) :=
    ⟨.inl rfl, .inl rfl, .inl rfl, by simp [ATransport.setFeatures, stringToFeatureSet],
      by simp [ATransport.setFeatures, stringToFeatureSet]⟩
  unfold ATransport.parseBannerProps
  split
  · rename_i type empty props rest hsplit
    have hprops : props ∈ split 58 banner := by
      rw [hsplit]
      simp
    refine List.foldlRecOn _ _ hreset fun x' hx prop hprop => hx.parseBannerProp ?_ _
    have hmem : prop ∈ split 59 props := List.mem_of_mem_filter hprop
    intro c hc hend
    obtain rfl | rfl | rfl : c = 0 ∨ c = 58 ∨ c = 59 := by simpa using hend
    · exact hnul ((mem_split hprops).2 ((mem_split hmem).2 hc))
    · exact (mem_split hprops).1 ((mem_split hmem).2 hc)
    · exact (mem_split hmem).1 hc
  · exact hreset

/-- There is no NUL in a banner. -/
theorem zero_not_mem_getConnectionString (deviceBanner : Bytes) (getProperty : Bytes → Bytes)
    (features : FeatureSet) : 0 ∉ getConnectionString deviceBanner getProperty features := by
  have hcString (s : Bytes) : 0 ∉ cString s := fun h => by simpa using List.mem_takeWhile_imp h
  simp [getConnectionString, hcString, lit]

end Ambiguous

/-- A banner carries the values and the features of a device to every transport of every host
exactly when they are unambiguous. The type of the device is one without a colon. -/
theorem banner_carries_iff {deviceBanner : Bytes} (hbanner : 58 ∉ cString deviceBanner)
    (getProperty : Bytes → Bytes) (features : FeatureSet) :
    (∀ (h : Host) (t : ℕ), ((h.parseBanner t (getConnectionString deviceBanner getProperty
        features)).transports t).Carries getProperty features) ↔
      Unambiguous getProperty features := by
  constructor
  · intro hcarries
    -- A transport with other values, each longer than what is put in.
    let x : ATransport := { ATransport.new .local [] .offline true with
      product := 0 :: getProperty (lit "ro.product.name")
      model := 0 :: getProperty (lit "ro.product.model")
      device := 0 :: getProperty (lit "ro.product.device") }
    have hx := hcarries { Host.initial false with transports := fun _ => x } 0
    rw [Host.parseBanner_transports_same] at hx
    obtain ⟨hproduct, hmodel, hdevice, hfeatures⟩ := hx
    have hnul := zero_not_mem_getConnectionString deviceBanner getProperty features
    have hover := readOver_parseBannerProps hnul false x
    have hlonger : ∀ s : Bytes, s ≠ 0 :: s := fun s h => by simpa using congrArg List.length h
    refine ⟨?_, ?_, ?_⟩
    · intro prop hprop
      obtain rfl | rfl | rfl : prop = lit "ro.product.name" ∨ prop = lit "ro.product.model" ∨
        prop = lit "ro.product.device" := by simpa [cnxnProps] using hprop
      · rw [← hproduct]
        exact hover.product.resolve_left fun h => hlonger _ (hproduct.symm.trans h)
      · rw [← hmodel]
        exact hover.model.resolve_left fun h => hlonger _ (hmodel.symm.trans h)
      · rw [← hdevice]
        exact hover.device.resolve_left fun h => hlonger _ (hdevice.symm.trans h)
    · rw [← hfeatures]
      exact hover.names
    · rw [← hfeatures]
      exact hover.ne_empty
  · intro hunambiguous h t
    obtain ⟨hproduct, hmodel, hdevice, hfeatures⟩ := parseBannerProps_getConnectionString hbanner
      hunambiguous h.delayedAckEnabled (h.transports t)
    rw [Host.parseBanner_transports_same]
    exact ⟨hproduct, hmodel, hdevice, hfeatures⟩

/-- The values of a phone. -/
def phoneProperty (prop : Bytes) : Bytes :=
  if prop = lit "ro.product.name" then lit "blueline"
  else if prop = lit "ro.product.model" then lit "Pixel 3" else lit "blueline"

/-- A phone gets its values and features across to a host that has just started. -/
theorem phone_carried : (((Host.initial false).parseBanner 0 (getConnectionString (lit "device")
    phoneProperty [lit "shell_v2", lit "cmd"])).transports 0).Carries phoneProperty
      [lit "shell_v2", lit "cmd"] :=
  (banner_carries_iff (by decide) phoneProperty [lit "shell_v2", lit "cmd"]).mpr
    ⟨by decide, by decide, by decide⟩ (.initial false) 0

/-- A product with an equals sign does not replace the one before. -/
theorem product_kept : ¬ ∀ (deviceBanner : Bytes), 58 ∉ cString deviceBanner →
    ∀ (getProperty : Bytes → Bytes) (features : FeatureSet) (h : Host) (t : ℕ),
      ((h.parseBanner t (getConnectionString deviceBanner getProperty features)).transports
        t).Carries getProperty features := by
  intro h
  have hcarries := h (lit "device") (by decide) (fun _ => lit "a=b") []
    { Host.initial false with
      transports := fun _ => { ATransport.new .usb (lit "0123") .offline false with
        product := lit "blueline" } } 0
  exact absurd hcarries.product (by decide)

end AdbMobile
