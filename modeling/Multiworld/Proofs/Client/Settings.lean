import Multiworld.Client.Settings
import Multiworld.Proofs.Json.TextRecord

/-!
# Settings, laid over the defaults

A text of settings is an object with any of their fields, in any order and among members
with other keys, and stands for changes to the defaults. Reading it makes these changes and
no others. The settings of a link are an object inside, which stands for changes in the same
way.

## Main definitions

* `LinkChanges`, `ClientChanges`: changes to settings, for each field a value or none
* `LinkChanges.IsObjectOf`, `ClientChanges.IsTextOf`: the texts that stand for changes

## Main results

* `ClientSettings.read_overlays`: reading makes the changes that a text stands for, and reads
  back what is written
-/

namespace Multiworld

open Json (Blanks IsObject IsRecordOf Given Pending Takes blanks_nil)

/-! ## Links -/

/-- Changes to the settings of a link. -/
structure LinkChanges where
  chunkSize : Option UInt64 := none
  maxMessageSize : Option UInt64 := none

namespace LinkChanges

/-- The settings with the changes made. -/
def applyTo (ch : LinkChanges) (s : LinkSettings) : LinkSettings where
  chunkSize := ch.chunkSize.getD s.chunkSize
  maxMessageSize := ch.maxMessageSize.getD s.maxMessageSize

/-- The members of an object that stands for changes. -/
structure AreMembersOf (ch : LinkChanges) (ms : List (String × List Char)) : Prop where
  isRecord : IsRecordOf ["chunk_size", "max_message_size"] ms
  chunkSize : Given ms "chunk_size" Json.SpellsUInt64 ch.chunkSize
  maxMessageSize : Given ms "max_message_size" Json.SpellsUInt64 ch.maxMessageSize

/-- The objects that stand for changes. -/
def IsObjectOf (ch : LinkChanges) (cs : List Char) : Prop :=
  ∃ ms, IsObject ms cs ∧ ch.AreMembersOf ms

end LinkChanges

namespace LinkSettings

/-- What members still have to say for `s` to become `target`. -/
structure Remaining (target : LinkSettings) (ms : List (String × List Char)) (s : LinkSettings) :
    Prop where
  chunkSize : Pending ms "chunk_size" Json.SpellsUInt64 target.chunkSize s.chunkSize
  maxMessageSize :
    Pending ms "max_message_size" Json.SpellsUInt64 target.maxMessageSize s.maxMessageSize

variable {target : LinkSettings}

theorem Remaining.known : ∀ f ∈ fields, ∀ v ms s, Remaining target ((f.key, v) :: ms) s →
    ∃ s', Takes (f.read s) v s' ∧ Remaining target ms s' := by
  simp only [fields, List.forall_mem_cons]
  refine ⟨fun v ms s h => ?_, fun v ms s h => ?_, by simp⟩
  · have hread := Json.takes_readUInt64 (h.chunkSize.spelled v List.mem_cons_self)
    exact ⟨{ s with chunkSize := target.chunkSize }, hread.map fun n => { s with chunkSize := n },
      h.chunkSize.read, h.maxMessageSize.other (by decide)⟩
  · have hread := Json.takes_readUInt64 (h.maxMessageSize.spelled v List.mem_cons_self)
    exact ⟨{ s with maxMessageSize := target.maxMessageSize },
      hread.map fun n => { s with maxMessageSize := n },
      h.chunkSize.other (by decide), h.maxMessageSize.read⟩

theorem Remaining.other (k : String) (v : List Char) (ms : List (String × List Char))
    (s : LinkSettings) (hk : k ∉ fields.map (·.key)) (h : Remaining target ((k, v) :: ms) s) :
    Remaining target ms s := by
  simp only [fields, List.map_cons, List.mem_cons, not_or] at hk
  exact ⟨h.chunkSize.other hk.1, h.maxMessageSize.other hk.2.1⟩

theorem Remaining.done (s : LinkSettings) (h : Remaining target [] s) : s = target :=
  congrArg₂ LinkSettings.mk h.chunkSize.done h.maxMessageSize.done

/-- Reading makes the changes that an object stands for. -/
theorem takes_reader {ch : LinkChanges} {cs : List Char} (h : ch.IsObjectOf cs) :
    Takes reader cs (ch.applyTo {}) := by
  obtain ⟨ms, hobject, hms⟩ := h
  have hstart : Remaining (ch.applyTo {}) ms {} :=
    ⟨hms.chunkSize.pending hms.isRecord (by decide),
      hms.maxMessageSize.pending hms.isRecord (by decide)⟩
  exact Json.takes_readRecord "TransportConfig" Remaining.known Remaining.other Remaining.done
    hobject hms.isRecord hstart

end LinkSettings

/-! ## Clients -/

/-- Changes to the settings of a client. -/
structure ClientChanges where
  url : Option String := none
  link : Option LinkChanges := none
  deathScope : Option (Option String) := none
  queueCapacity : Option UInt64 := none
  logFilter : Option String := none

namespace ClientChanges

/-- The settings with the changes made. -/
def applyTo (ch : ClientChanges) (s : ClientSettings) : ClientSettings where
  url := ch.url.getD s.url
  link := (ch.link.map (·.applyTo s.link)).getD s.link
  deathScope := ch.deathScope.getD s.deathScope
  queueCapacity := ch.queueCapacity.getD s.queueCapacity
  logFilter := ch.logFilter.getD s.logFilter

/-- The members of an object that stands for changes. -/
structure AreMembersOf (ch : ClientChanges) (ms : List (String × List Char)) : Prop where
  isRecord : IsRecordOf
    ["url", "transport", "death_link_scope", "send_queue_capacity", "log_filter"] ms
  url : Given ms "url" Json.SpellsString ch.url
  link : Given ms "transport" LinkChanges.IsObjectOf ch.link
  deathScope : Given ms "death_link_scope" Json.SpellsOptional ch.deathScope
  queueCapacity : Given ms "send_queue_capacity" Json.SpellsUInt64 ch.queueCapacity
  logFilter : Given ms "log_filter" Json.SpellsString ch.logFilter

/-- The texts that stand for changes. -/
def IsTextOf (ch : ClientChanges) (text : String) : Prop :=
  ∃ ms ws cs ws', text.toList = ws ++ (cs ++ ws') ∧ Blanks ws ∧ Blanks ws' ∧ IsObject ms cs ∧
    ch.AreMembersOf ms

end ClientChanges

namespace ClientSettings

/-- What members still have to say for `s` to become `target`. -/
structure Remaining (target : ClientSettings) (ms : List (String × List Char))
    (s : ClientSettings) : Prop where
  url : Pending ms "url" Json.SpellsString target.url s.url
  link : Pending ms "transport" (fun l cs => Takes LinkSettings.reader cs l) target.link s.link
  deathScope :
    Pending ms "death_link_scope" Json.SpellsOptional target.deathScope s.deathScope
  queueCapacity :
    Pending ms "send_queue_capacity" Json.SpellsUInt64 target.queueCapacity s.queueCapacity
  logFilter : Pending ms "log_filter" Json.SpellsString target.logFilter s.logFilter

variable {target : ClientSettings}

theorem Remaining.known : ∀ f ∈ fields, ∀ v ms s, Remaining target ((f.key, v) :: ms) s →
    ∃ s', Takes (f.read s) v s' ∧ Remaining target ms s' := by
  simp only [fields, List.forall_mem_cons]
  refine ⟨fun v ms s h => ?url, fun v ms s h => ?link, fun v ms s h => ?deathScope,
    fun v ms s h => ?queueCapacity, fun v ms s h => ?logFilter, by simp⟩
  case url =>
    have hread := Json.takes_readText (h.url.spelled v List.mem_cons_self)
    exact ⟨{ s with url := target.url }, hread.map fun url => { s with url := url },
      h.url.read, h.link.other (by decide), h.deathScope.other (by decide),
      h.queueCapacity.other (by decide), h.logFilter.other (by decide)⟩
  case link =>
    have hread := h.link.spelled v List.mem_cons_self
    exact ⟨{ s with link := target.link }, hread.map fun link => { s with link := link },
      h.url.other (by decide), h.link.read, h.deathScope.other (by decide),
      h.queueCapacity.other (by decide), h.logFilter.other (by decide)⟩
  case deathScope =>
    have hread := Json.takes_readOptionalText (h.deathScope.spelled v List.mem_cons_self)
    exact ⟨{ s with deathScope := target.deathScope },
      hread.map fun scope => { s with deathScope := scope },
      h.url.other (by decide), h.link.other (by decide), h.deathScope.read,
      h.queueCapacity.other (by decide), h.logFilter.other (by decide)⟩
  case queueCapacity =>
    have hread := Json.takes_readUInt64 (h.queueCapacity.spelled v List.mem_cons_self)
    exact ⟨{ s with queueCapacity := target.queueCapacity },
      hread.map fun n => { s with queueCapacity := n },
      h.url.other (by decide), h.link.other (by decide), h.deathScope.other (by decide),
      h.queueCapacity.read, h.logFilter.other (by decide)⟩
  case logFilter =>
    have hread := Json.takes_readText (h.logFilter.spelled v List.mem_cons_self)
    exact ⟨{ s with logFilter := target.logFilter },
      hread.map fun filter => { s with logFilter := filter },
      h.url.other (by decide), h.link.other (by decide), h.deathScope.other (by decide),
      h.queueCapacity.other (by decide), h.logFilter.read⟩

theorem Remaining.other (k : String) (v : List Char) (ms : List (String × List Char))
    (s : ClientSettings) (hk : k ∉ fields.map (·.key)) (h : Remaining target ((k, v) :: ms) s) :
    Remaining target ms s := by
  simp only [fields, List.map_cons, List.mem_cons, not_or] at hk
  obtain ⟨hurl, hlink, hscope, hcapacity, hfilter, -⟩ := hk
  exact ⟨h.url.other hurl, h.link.other hlink, h.deathScope.other hscope,
    h.queueCapacity.other hcapacity, h.logFilter.other hfilter⟩

theorem Remaining.done (s : ClientSettings) (h : Remaining target [] s) : s = target := by
  cases s
  cases target
  simp only [mk.injEq]
  exact ⟨h.url.done, h.link.done, h.deathScope.done, h.queueCapacity.done, h.logFilter.done⟩

/-- Reading makes the changes that a text stands for. -/
theorem read_of_isTextOf {ch : ClientChanges} {text : String} (h : ch.IsTextOf text) :
    read text = .ok (ch.applyTo {}) := by
  obtain ⟨ms, ws, cs, ws', ht, hws, hws', hobject, hms⟩ := h
  -- Links are read over their own defaults, which the default settings have, too.
  have hlink : Given ms "transport" (fun l cs => Takes LinkSettings.reader cs l)
      (ch.link.map (·.applyTo {})) := hms.link.imp fun _ _ => LinkSettings.takes_reader
  have hstart : Remaining (ch.applyTo {}) ms {} :=
    ⟨hms.url.pending hms.isRecord (by decide), hlink.pending hms.isRecord (by decide),
      hms.deathScope.pending hms.isRecord (by decide),
      hms.queueCapacity.pending hms.isRecord (by decide),
      hms.logFilter.pending hms.isRecord (by decide)⟩
  have htakes := Json.takes_readRecord "ClientConfig" Remaining.known Remaining.other
    Remaining.done hobject hms.isRecord hstart
  exact htakes.readWhole? hws hws' ht

end ClientSettings

/-! ## Settings as written -/

/-- The changes that give all settings of a link. -/
def LinkChanges.all (s : LinkSettings) : LinkChanges where
  chunkSize := some s.chunkSize
  maxMessageSize := some s.maxMessageSize

/-- The changes that give all settings of a client. -/
def ClientChanges.all (s : ClientSettings) : ClientChanges where
  url := some s.url
  link := some (.all s.link)
  deathScope := some s.deathScope
  queueCapacity := some s.queueCapacity
  logFilter := some s.logFilter

theorem render_ofUInt64 (n : UInt64) : (Json.ofUInt64 n).render = Nat.toDigits 10 n.toNat :=
  Json.integer_natCast n.toNat

theorem spellsOptional_render (s? : Option String) :
    Json.SpellsOptional s? ((s?.map .str).getD .null : Json).render := by
  cases s? with
  | none => exact .null
  | some s => exact .string (Json.spellsString_renderString s)

/-- What is written for the settings of a link gives them all. -/
theorem LinkSettings.isObjectOf_toJson (s : LinkSettings) :
    (LinkChanges.all s).IsObjectOf s.toJson.render := by
  refine ⟨_, Json.isObject_render _, Json.isRecordOf_of_map_eq rfl (by decide), ?_, ?_⟩
  · exact ⟨_, by simp, render_ofUInt64 s.chunkSize⟩
  · exact ⟨(Json.ofUInt64 s.maxMessageSize).render, by simp, render_ofUInt64 s.maxMessageSize⟩

/-- What is written for the settings of a client gives them all. -/
theorem ClientSettings.isTextOf_toJson (s : ClientSettings) :
    (ClientChanges.all s).IsTextOf s.toJson.text := by
  refine ⟨_, [], s.toJson.render, [], by simp [Json.text], blanks_nil, blanks_nil,
    Json.isObject_render _, Json.isRecordOf_of_map_eq rfl (by decide), ?_, ?_, ?_, ?_, ?_⟩
  · exact ⟨(Json.str s.url).render, by simp, Json.spellsString_renderString s.url⟩
  · exact ⟨s.link.toJson.render, by simp, s.link.isObjectOf_toJson⟩
  · exact ⟨_, by simp, spellsOptional_render s.deathScope⟩
  · exact ⟨_, by simp, render_ofUInt64 s.queueCapacity⟩
  · exact ⟨(Json.str s.logFilter).render, by simp, Json.spellsString_renderString s.logFilter⟩

namespace ClientSettings

/-- **Settings are laid over the defaults.** Reading a text makes the changes that it stands
for, in whatever order and among whatever else they come, and settings that are written are
read as they were. -/
theorem read_overlays :
    (∀ (ch : ClientChanges) (text : String), ch.IsTextOf text →
      read text = .ok (ch.applyTo {})) ∧
    ∀ s : ClientSettings, read s.toJson.text = .ok s :=
  ⟨fun _ _ => read_of_isTextOf, fun s => read_of_isTextOf s.isTextOf_toJson⟩

/-- A list that nobody asked for comes first, and the settings of a link give one field. -/
theorem read_overlays_chunkSize :
    ClientChanges.IsTextOf { link := some { chunkSize := some 4096 } }
      "\x7b \"x\":[null], \"transport\": \x7b\"chunk_size\":4096\x7d\x7d" ∧
    read "\x7b \"x\":[null], \"transport\": \x7b\"chunk_size\":4096\x7d\x7d" =
      .ok { link := { chunkSize := 4096 } } := by
  have hspace : Blanks [' '] := by simp [Blanks]
  have hkey (k : String) : Json.SpellsKey k ([' '] ++ (Json.renderString k ++ ([] ++ [':']))) :=
    ⟨[' '], _, [], hspace, Json.spellsString_renderString k, blanks_nil, rfl⟩
  have hlink : LinkChanges.IsObjectOf { chunkSize := some 4096 }
      (Json.obj [("chunk_size", .ofUInt64 4096)]).render :=
    ⟨_, Json.isObject_render _, ⟨by decide, by simp⟩,
      ⟨_, List.mem_cons_self, render_ofUInt64 4096⟩, by simp [Given]⟩
  have hlist : Json.IsValue ['[', 'n', 'u', 'l', 'l', ']'] :=
    .bracket .list (.entry .first .item blanks_nil (.scalar .isNull) (.close blanks_nil))
  have htext : ClientChanges.IsTextOf { link := some { chunkSize := some 4096 } }
      "\x7b \"x\":[null], \"transport\": \x7b\"chunk_size\":4096\x7d\x7d" :=
    ⟨[("x", ['[', 'n', 'u', 'l', 'l', ']']),
      ("transport", (Json.obj [("chunk_size", .ofUInt64 4096)]).render)], [], _, [],
      rfl, blanks_nil, blanks_nil,
      ⟨_, .member .first (hkey "x") blanks_nil (.member (.next blanks_nil)
        (hkey "transport") hspace (.close blanks_nil)), rfl⟩,
      ⟨by simp, by simp [hlist]⟩, by simp [Given],
      ⟨_, List.mem_cons_of_mem _ List.mem_cons_self, hlink⟩, by simp [Given], by simp [Given],
      by simp [Given]⟩
  exact ⟨htext, read_overlays.1 _ _ htext⟩

end ClientSettings

end Multiworld
