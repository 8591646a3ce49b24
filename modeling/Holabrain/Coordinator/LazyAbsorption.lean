import Holabrain.Coordinator.Provenance

/-!
# Lazy absorption

Every status snapshot feeds its keys into the reported fields of a profile, but no rule is run
over them: a flag whose keys first appear in a snapshot waits for the next resolution.
-/

namespace Holabrain

namespace Coordinator

/-! ## Sequences of snapshots -/

/-- From the first world to the second the profile under a key has changed by absorptions only;
these are the keys they reported for it. -/
inductive Absorbing (key : String) (w : World) : Finset String → World → Prop
  | refl : Absorbing key w ∅ w
  | absorb {keys : Finset String} {w' : World} (h : Absorbing key w keys w')
      (states : List (String × DeviceState)) :
      Absorbing key w (keys ∪ reportedKeys w'.devices key states) (absorbStatusFields states w')
  | meanwhile {keys : Finset String} {w' w'' : World} (h : Absorbing key w keys w')
      (hkept : w''.capabilities.get? key = w'.capabilities.get? key) : Absorbing key w keys w''

/-- Such a sequence adds the reported keys to the fields of the profile, and that is all. -/
theorem Absorbing.get? {key : String} {w w' : World} {keys : Finset String}
    {profile : CapabilityProfile} (h : Absorbing key w keys w')
    (hprofile : w.capabilities.get? key = some profile) :
    w'.capabilities.get? key = some (profile.withFields keys) := by
  induction h with
  | refl => rw [hprofile, CapabilityProfile.withFields_empty]
  | absorb h states ih =>
      rw [get?_absorbStatusFields, ih, Option.map_some, CapabilityProfile.withFields_withFields]
  | meanwhile h hkept ih => rw [hkept, ih]

/-! ## Absorption and resolution -/

/-- The profile supports every flag that the rules derive from its reported fields. -/
def FlagsAbsorbed (deviceType : String) (profile : CapabilityProfile) : Prop :=
  ∀ flag, Derived (presenceRules deviceType) profile.presentFields flag → profile.supports flag

/-- That is all a resolution over the same fields would advertise. -/
theorem flagsAbsorbed_iff_resolution {r r' : Resolution} {profile full : CapabilityProfile}
    {now : ℚ} (hobtained : Obtained r profile) (hsame : r.SameOthers r')
    (hseen : r'.seen = profile.presentFields) (hfull : r'.result now = .ok full) :
    FlagsAbsorbed r.ctx.deviceType profile ↔
      ∀ feature ∈ full.features, profile.supports feature := by
  constructor
  · intro habsorbed feature hfeature
    rw [Resolution.mem_features_result hfull, hsame.advertises_iff, hsame.deviceType,
      hseen] at hfeature
    cases hfeature with
    | inl hadvertised => exact (hobtained.supports_iff feature).mpr (.inl hadvertised)
    | inr hderived => exact habsorbed feature hderived
  · intro hsupported flag hderived
    rw [← hseen, ← hsame.deviceType] at hderived
    exact hsupported flag ((Resolution.mem_features_result hfull flag).mpr (.inr hderived))

/-- Absorption keeps up with resolution exactly if every flag derived from the accumulated
fields was derived by the last resolution, or is advertised or reported by itself. -/
theorem flagsAbsorbed_iff {r : Resolution} {key : String} {w w' : World} {keys : Finset String}
    {cached : CapabilityProfile} (hobtained : Obtained r cached)
    (hcached : w.capabilities.get? key = some cached) (hrun : Absorbing key w keys w') :
    ∃ profile, w'.capabilities.get? key = some profile ∧
      profile.presentFields = cached.presentFields ∪ keys ∧
      (FlagsAbsorbed r.ctx.deviceType profile ↔
        ∀ flag, Derived (presenceRules r.ctx.deviceType) (cached.presentFields ∪ keys) flag →
          r.Advertises flag ∨ Derived (presenceRules r.ctx.deviceType) r.seen flag ∨
            flag ∈ cached.presentFields ∪ keys) := by
  refine ⟨_, hrun.get? hcached, CapabilityProfile.withFields_presentFields _ _, ?_⟩
  simp only [FlagsAbsorbed, (hobtained.absorbed keys).supports_iff,
    CapabilityProfile.withFields_presentFields]

/-! ## A dishwasher that shows its door late -/

/-- The dishwasher with the profile that this status was resolved to. -/
def resolvedOn (data : Dict String DeviceState) : World :=
  { oneDishwasher none with
    capabilities := Dict.ofList [("760EY179", dishwasherProfile data)] }

/-- A snapshot that only repeats known keys. -/
theorem flagsAbsorbed_standby : ∃ profile,
    (absorbStatusFields standby.items (resolvedOn autoOpening)).capabilities.get? "760EY179" =
      some profile ∧ FlagsAbsorbed "0xE1" profile := by
  have hok : ((dishwasherResolution autoOpening).result 0).toOption.isSome = true := by
    decide +kernel
  have hsubset : (dishwasherProfile autoOpening).presentFields ∪
      (∅ ∪ reportedKeys (resolvedOn autoOpening).devices "760EY179" standby.items) ⊆
        (dishwasherResolution autoOpening).seen := by
    decide +kernel
  have hcached : (resolvedOn autoOpening).capabilities.get? "760EY179" =
      some (dishwasherProfile autoOpening) := rfl
  obtain ⟨profile, hprofile, -, habsorbed⟩ := flagsAbsorbed_iff
    (obtained_dishwasherProfile hok) hcached (.absorb .refl standby.items)
  exact ⟨profile, hprofile, habsorbed.mpr fun flag hderived => .inr (.inl (hderived.mono hsubset))⟩

/-- The first snapshot with a new key: its flag is derived from the accumulated fields, and the
profile does not support it. -/
theorem not_flagsAbsorbed_autoOpening :
    Obtained (dishwasherResolution standby) (dishwasherProfile standby) ∧
      (resolvedOn standby).capabilities.get? "760EY179" = some (dishwasherProfile standby) ∧
      ∀ profile, (absorbStatusFields autoOpening.items
          (resolvedOn standby)).capabilities.get? "760EY179" = some profile →
        Derived (presenceRules "0xE1") profile.presentFields "auto_open" ∧
          ¬ profile.supports "auto_open" := by
  have hok : ((dishwasherResolution standby).result 0).toOption.isSome = true := by
    decide +kernel
  refine ⟨obtained_dishwasherProfile hok, rfl, fun profile hprofile => ?_⟩
  have habsorbed : ((absorbStatusFields autoOpening.items
      (resolvedOn standby)).capabilities.get? "760EY179").map
        (fun profile => (decide ("autoDoorOpen" ∈ profile.presentFields),
          decide (profile.supports "auto_open"))) = some (true, false) := by
    decide +kernel
  rw [hprofile, Option.map_some, Option.some.injEq, Prod.mk.injEq, decide_eq_true_iff,
    decide_eq_false_iff_not] at habsorbed
  have hrule : ({ flag := "auto_open", keys := ["autoDoorOpen"] } : PresenceRule) ∈
      presenceRules "0xE1" := by
    simp [presenceRules, dishwasherPresence]
  refine ⟨⟨_, hrule, rfl, ?_⟩, habsorbed.2⟩
  simpa [PresenceRule.matchesKeys] using habsorbed.1

end Coordinator

end Holabrain
