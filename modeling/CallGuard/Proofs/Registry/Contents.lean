import CallGuard.Proofs.Settings.Violations
import CallGuard.Registry

/-!
# What a registry holds

A registry is built entry by entry. Its names are those of the settings, each where it came
first; what is kept under a name was built from the last entry of that name. In settings without
a complaint every name has one entry, so that the registry follows the settings entry by entry,
and looking up a name there and here finds the same.
-/

namespace CallGuard

namespace Keyed

variable {κ α : Type} [DecidableEq κ]

theorem lookup_of_mem {entries : List (κ × α)} (hDistinct : (keys entries).Nodup) {key : κ}
    {value : α} (hMem : (key, value) ∈ entries) : entries.lookup key = some value := by
  induction entries with
  | nil => cases hMem
  | cons entry rest ih =>
    obtain ⟨hFresh, hRest⟩ := List.nodup_cons.mp hDistinct
    obtain rfl | hLater := List.mem_cons.mp hMem
    · rw [List.lookup_cons_self]
    · have hOther : key ≠ entry.1 := by
        rintro rfl
        exact hFresh (List.mem_map.mpr ⟨_, hLater, rfl⟩)
      rw [List.lookup_cons, beq_false_of_ne hOther]
      exact ih hRest hLater

theorem map_lookup_keys {entries : List (κ × α)} (hDistinct : (keys entries).Nodup) :
    (keys entries).map (entries.lookup ·) = entries.map fun entry => some entry.2 := by
  rw [keys, List.map_map]
  exact List.map_congr_left fun entry hMem => lookup_of_mem hDistinct hMem

end Keyed

theorem eraseDups_of_nodup {α : Type} [DecidableEq α] {l : List α} (hDistinct : l.Nodup) :
    l.eraseDups = l := by
  induction l with
  | nil => rfl
  | cons a rest ih =>
    obtain ⟨hFresh, hRest⟩ := List.nodup_cons.mp hDistinct
    have hKept : rest.filter (fun b => !b == a) = rest := by
      rw [List.filter_eq_self]
      intro b hMem
      have hOther : b ≠ a := fun hSame => hFresh (hSame ▸ hMem)
      simp [hOther]
    rw [List.eraseDups_cons, hKept, ih hRest]

def BreakerSettings.fresh (s : BreakerSettings) (now : Instant) : Breaker :=
  (Breaker.create s s.kind.classify now).1

@[simp] theorem BreakerSettings.name_fresh (s : BreakerSettings) (now : Instant) :
    (s.fresh now).name = s.name := by
  unfold fresh Breaker.create
  split <;> rfl

namespace Settings

def lastNamed? (s : Settings) (name : String) : Option BreakerSettings :=
  s.breakers.findRev? fun e => e.name == name

variable {s : Settings} {name : String}

theorem name_of_lastNamed? {e : BreakerSettings} (hLast : s.lastNamed? name = some e) :
    e.name = name := by
  rw [lastNamed?, List.findRev?_eq_find?_reverse] at hLast
  have hName := List.find?_some hLast
  exact beq_iff_eq.mp hName

theorem lastNamed?_eq_none_iff : s.lastNamed? name = none ↔ name ∉ s.breakerNames := by
  rw [lastNamed?, List.findRev?_eq_find?_reverse, List.find?_eq_none, breakerNames, List.mem_map]
  simp

theorem find?_name {l : List BreakerSettings} (hDistinct : (l.map BreakerSettings.name).Nodup)
    {e : BreakerSettings} (hMem : e ∈ l) :
    (l.find? fun other => other.name == e.name) = some e := by
  cases hFound : l.find? fun other => other.name == e.name with
  | none => exact absurd (beq_self_eq_true e.name) (List.find?_eq_none.mp hFound e hMem)
  | some other =>
    have hName := List.find?_some hFound
    have hSame := List.inj_on_of_nodup_map hDistinct (List.mem_of_find?_eq_some hFound) hMem
      (beq_iff_eq.mp hName)
    rw [hSame]

/-- Where names are distinct it does not matter from which end one looks. -/
theorem lastNamed?_of_mem (hDistinct : s.breakerNames.Nodup) {e : BreakerSettings}
    (hMem : e ∈ s.breakers) : s.lastNamed? e.name = some e := by
  rw [lastNamed?, List.findRev?_eq_find?_reverse]
  refine find?_name ?_ (List.mem_reverse.mpr hMem)
  rw [List.map_reverse]
  exact List.nodup_reverse.mpr hDistinct

theorem breaker?_eq_lastNamed? (hDistinct : s.breakerNames.Nodup) :
    s.breaker? name = s.lastNamed? name := by
  cases hLast : s.lastNamed? name with
  | none =>
    rw [lastNamed?_eq_none_iff, breakerNames, List.mem_map] at hLast
    rw [breaker?, List.find?_eq_none]
    simpa using hLast
  | some e =>
    have hName := name_of_lastNamed? hLast
    rw [lastNamed?, List.findRev?_eq_find?_reverse] at hLast
    have hMem := List.mem_reverse.mp (List.mem_of_find?_eq_some hLast)
    subst hName
    exact find?_name hDistinct hMem

end Settings

namespace Registry

section Building

variable (now : Instant)

theorem lookup_build (settings : List BreakerSettings) (entries : List (String × Registered))
    (name : String) :
    (build now settings entries).1.lookup name =
      ((settings.findRev? fun e => e.name == name).map fun e => ⟨e, e.fresh now⟩).or
        (entries.lookup name) := by
  induction settings generalizing entries with
  | nil => rfl
  | cons e rest ih =>
    change (build now rest (Keyed.put e.name ⟨e, e.fresh now⟩ entries)).1.lookup name = _
    rw [ih, Keyed.lookup_put, List.findRev?]
    cases rest.findRev? fun e => e.name == name with
    | some last => rfl
    | none =>
      by_cases hName : name = e.name
      · simp [hName]
      · simp [hName, Ne.symm hName]

theorem keys_build (settings : List BreakerSettings) (entries : List (String × Registered)) :
    Keyed.keys (build now settings entries).1 = Keyed.keys entries ++
      ((settings.map BreakerSettings.name).removeAll (Keyed.keys entries)).eraseDups := by
  induction settings generalizing entries with
  | nil => simp [build]
  | cons e rest ih =>
    change Keyed.keys (build now rest (Keyed.put e.name ⟨e, e.fresh now⟩ entries)).1 = _
    rw [ih, Keyed.keys_put]
    -- A name that is held already keeps its place, and adds none.
    by_cases hHeld : e.name ∈ Keyed.keys entries
    · rw [if_pos hHeld]
      simp [List.removeAll, hHeld]
    · have hTwice : (rest.map BreakerSettings.name).removeAll (Keyed.keys entries ++ [e.name]) =
          ((rest.map BreakerSettings.name).removeAll (Keyed.keys entries)).filter
            fun name => !name == e.name := by
        rw [List.removeAll, List.removeAll, List.filter_filter]
        refine List.filter_congr fun name _ => ?_
        by_cases hSame : name = e.name <;> simp [hSame]
      rw [if_neg hHeld, hTwice, List.append_assoc]
      simp [List.cons_removeAll, hHeld, List.eraseDups_cons]

theorem lookup_create (s : Settings) (name : String) :
    (create s now).1.entries.lookup name =
      (s.lastNamed? name).map fun e => ⟨e, e.fresh now⟩ := by
  have hBuilt := lookup_build now s.breakers [] name
  rw [List.lookup_nil, Option.or_none] at hBuilt
  exact hBuilt

theorem keys_create (s : Settings) :
    Keyed.keys (create s now).1.entries = s.breakerNames.eraseDups := by
  have hBuilt := keys_build now s.breakers []
  have hNone : Keyed.keys ([] : List (String × Registered)) = [] := rfl
  rw [hNone, List.nil_append, List.removeAll_nil] at hBuilt
  exact hBuilt

end Building

structure Contents (s : Settings) (now : Instant) (r : Registry) : Prop where
  size : r.size = s.breakerNames.toFinset.card
  names : r.names = s.breakerNames.eraseDups
  breakers : r.breakers.map some = r.names.map r.breaker?
  known : ∀ name ∈ s.breakerNames, ∃ e, s.lastNamed? name = some e ∧
    r.breaker? name = some (e.fresh now) ∧ r.classifier? name = some e.kind.classify ∧
    r.guard? name = some ⟨e.fresh now, ⟨name, .ofSettings s.retry⟩, e.kind.classify⟩
  unknown : ∀ name, name ∉ s.breakerNames →
    r.breaker? name = none ∧ r.classifier? name = none ∧ r.guard? name = none

section Creating

variable (s : Settings) (now : Instant)

theorem names_create : (create s now).1.names = Keyed.keys (create s now).1.entries := by
  rw [names, breakers, Keyed.keys, List.map_map]
  refine List.map_congr_left ?_
  rintro ⟨name, kept⟩ hMem
  have hKept := Keyed.lookup_of_mem (create s now).1.distinct hMem
  rw [lookup_create] at hKept
  obtain ⟨e, hLast, rfl⟩ := Option.map_eq_some_iff.mp hKept
  exact (e.name_fresh now).trans (Settings.name_of_lastNamed? hLast)

theorem breakers_create :
    (create s now).1.breakers.map some = (create s now).1.names.map (create s now).1.breaker? := by
  have hLookup := Keyed.map_lookup_keys (create s now).1.distinct
  have hBreakers := congrArg (List.map (Option.map Registered.breaker)) hLookup
  rw [List.map_map, List.map_map] at hBreakers
  rw [names_create, breakers, List.map_map]
  exact hBreakers.symm

theorem size_create : (create s now).1.size = s.breakerNames.toFinset.card := by
  have hNames : s.breakerNames.toFinset = (Keyed.keys (create s now).1.entries).toFinset := by
    ext name
    rw [keys_create, List.mem_toFinset, List.mem_toFinset, List.mem_eraseDups]
  rw [hNames, List.toFinset_card_of_nodup (create s now).1.distinct, Keyed.keys, List.length_map]
  rfl

theorem breaker?_create_eq (name : String) :
    (create s now).1.breaker? name = (s.lastNamed? name).map fun e => e.fresh now := by
  rw [breaker?, lookup_create, Option.map_map]
  rfl

theorem classifier?_create_eq (name : String) :
    (create s now).1.classifier? name = (s.lastNamed? name).map fun e => e.kind.classify := by
  rw [classifier?, lookup_create, Option.map_map]
  rfl

theorem guard?_create_eq (name : String) :
    (create s now).1.guard? name = (s.lastNamed? name).map fun e =>
      ⟨e.fresh now, ⟨name, .ofSettings s.retry⟩, e.kind.classify⟩ := by
  rw [guard?, lookup_create, Option.map_map]
  rfl

theorem contents_create : Contents s now (create s now).1 where
  size := size_create s now
  names := (names_create s now).trans (keys_create now s)
  breakers := breakers_create s now
  known name hName := by
    obtain ⟨e, hLast⟩ := Option.ne_none_iff_exists'.mp
      (mt Settings.lastNamed?_eq_none_iff.mp (not_not.mpr hName))
    rw [breaker?_create_eq, classifier?_create_eq, guard?_create_eq, hLast]
    exact ⟨e, rfl, rfl, rfl, rfl⟩
  unknown name hName := by
    have hLast := Settings.lastNamed?_eq_none_iff.mpr hName
    rw [breaker?_create_eq, classifier?_create_eq, guard?_create_eq, hLast]
    exact ⟨rfl, rfl, rfl⟩

theorem breakers_create_of_nodup {s : Settings} (hDistinct : s.breakerNames.Nodup) :
    (create s now).1.breakers = s.breakers.map fun e => e.fresh now := by
  have hBreakers := breakers_create s now
  rw [names_create, keys_create, eraseDups_of_nodup hDistinct, Settings.breakerNames,
    List.map_map] at hBreakers
  have hEntries : s.breakers.map ((create s now).1.breaker? ∘ BreakerSettings.name) =
      (s.breakers.map fun e => e.fresh now).map some := by
    rw [List.map_map]
    refine List.map_congr_left fun e hMem => ?_
    simp [breaker?_create_eq, Settings.lastNamed?_of_mem hDistinct hMem]
  exact List.map_injective_iff.mpr (Option.some_injective _) (hBreakers.trans hEntries)

end Creating

/-- Whatever the settings say, there is one breaker for each of their names, made from the last
entry with that name and found under it, and none for another name. If the settings are accepted
there is one breaker for each entry, in their order. -/
theorem create_follows_settings (s : Settings) (now : Instant) :
    Contents s now (create s now).1 ∧
    (s.validated = .ok s →
      (create s now).1.breakers = s.breakers.map (fun e => e.fresh now) ∧
      ∀ name, (create s now).1.breaker? name = (s.breaker? name).map fun e => e.fresh now) := by
  refine ⟨contents_create s now, fun hAccepted => ?_⟩
  have hDistinct := (Settings.problems_eq_nil_iff.mp
    ((Settings.validated_eq_ok_iff s).mp hAccepted)).distinct
  refine ⟨breakers_create_of_nodup now hDistinct, fun name => ?_⟩
  rw [breaker?_create_eq, Settings.breaker?_eq_lastNamed? hDistinct]

def storeAndMail : Settings :=
  { Settings.standard with
    retry := { RetrySettings.standard with backoffCoefficient := 1.0 }
    breakers := [{ BreakerSettings.standard with name := "store", kind := .database },
      { BreakerSettings.standard with name := "mail", kind := .httpClient }] }

theorem create_follows_settings_storeAndMail :
    storeAndMail.validated = .ok storeAndMail ∧
    "mail" ∈ storeAndMail.breakerNames ∧ "web" ∉ storeAndMail.breakerNames ∧
    (create storeAndMail 0).1.breakers = storeAndMail.breakers.map (fun e => e.fresh 0) ∧
    (create storeAndMail 0).1.breaker? "mail" =
      (storeAndMail.breaker? "mail").map (fun e => e.fresh 0) ∧
    (create storeAndMail 0).1.breaker? "web" = none := by
  have hStore : ¬ Text.IsBlank "store" := Text.not_isBlank_of_mem (c := 's') (by simp) rfl
  have hMail : ¬ Text.IsBlank "mail" := Text.not_isBlank_of_mem (c := 'm') (by simp) rfl
  have hAcceptable : storeAndMail.Acceptable :=
    { named := by simpa [storeAndMail] using ⟨hStore, hMail⟩
      distinct := by decide
      buckets := by decide
      coefficient := ⟨1, Decimal.value_one, le_rfl⟩
      jitter := ⟨0, Decimal.value_zero, le_rfl, zero_le_one⟩
      cap := .inr (by decide)
      level := ⟨"info", by simp, rfl⟩
      address := fun hEnabled => by cases hEnabled }
  have hAccepted := (Settings.validated_eq_ok_iff storeAndMail).mpr
    (Settings.problems_eq_nil_iff.mpr hAcceptable)
  have hOther : "web" ∉ storeAndMail.breakerNames := by decide
  obtain ⟨hContents, hFollows⟩ := create_follows_settings storeAndMail 0
  obtain ⟨hBreakers, hFound⟩ := hFollows hAccepted
  exact ⟨hAccepted, by decide, hOther, hBreakers, hFound "mail", (hContents.unknown "web" hOther).1⟩

end Registry

end CallGuard
