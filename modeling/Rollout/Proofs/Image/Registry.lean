import Rollout.Proofs.Image.Reference

namespace Rollout.Image

variable {text : String} {image : Image} {cs : List Char} {c : Char}

def isLabelChar (c : Char) : Bool := Text.isAlphanumeric c || c == '-'

def isLabel (cs : List Char) : Bool := !cs.isEmpty && cs.all isLabelChar

def isHostName (cs : List Char) : Bool := (Text.splitChar '.' cs).all isLabel

def isPort (cs : List Char) : Bool := !cs.isEmpty && cs.all Text.isDigit

-- The name of a host, and perhaps a port behind a colon.
def isRegistryName (cs : List Char) : Bool :=
  match Text.splitFirst ':' cs with
  | some (host, port) => isHostName host && isPort port
  | none => isHostName cs

structure Proper (image : Image) : Prop where
  registry : isRegistryName image.registry.toList = true
  components : ∀ part ∈ Text.splitChar '/' image.repository.toList, isComponent part = true
  tagged : ∀ tag ∈ image.tag, isTag tag.toList = true
  unblank : ∀ c ∈ image.render.toList, Text.isBlank c = false

theorem labelChar_tagChar (plain : isLabelChar c = true) : isTagChar c = true := by
  simp only [isLabelChar, isTagChar, Bool.or_eq_true] at plain ⊢
  tauto

theorem digit_tagChar (digit : Text.isDigit c = true) : isTagChar c = true := by
  simp [isTagChar, Text.isAlphanumeric, digit]

theorem hostName_unblank (host : isHostName cs = true) : ∀ c ∈ cs, Text.isBlank c = false := by
  intro c member
  have parted : c = '.' ∨ ∃ label ∈ Text.splitChar '.' cs, c ∈ label := Text.mem_splitChar member
  rcases parted with rfl | ⟨label, inside, inLabel⟩
  · decide
  · have plain := List.all_eq_true.mp host label inside
    simp only [isLabel, Bool.and_eq_true, List.all_eq_true] at plain
    exact tagChar_unblank (labelChar_tagChar (plain.2 c inLabel))

theorem registryName_unblank (name : isRegistryName cs = true) :
    ∀ c ∈ cs, Text.isBlank c = false := by
  unfold isRegistryName at name
  split at name
  · next host port found =>
    obtain ⟨inHost, inPort⟩ := Bool.and_eq_true_iff.mp name
    rw [Text.splitFirst_some found]
    intro c member
    rcases List.mem_append.mp member with member | member
    · exact hostName_unblank inHost c member
    · rcases List.mem_cons.mp member with rfl | member
      · decide
      · simp only [isPort, Bool.and_eq_true, List.all_eq_true] at inPort
        exact tagChar_unblank (digit_tagChar (inPort.2 c member))
  · exact hostName_unblank name

-- All that reading says about an image. In the place of its registry any other text could stand that
-- looks like a host, has no slash and begins with no blank.
structure Checked (text : String) (image : Image) : Prop where
  components : ∀ part ∈ Text.splitChar '/' image.repository.toList, isComponent part = true
  tagged : ∀ tag ∈ image.tag, isTag tag.toList = true
  unblank : ∀ c ∈ image.repository.toList ++ tagText image.tag, Text.isBlank c = false
  registry : image.registry = defaultRegistry ∨ isRegistryHost image.registry.toList = true ∧
    ∃ behind, (Text.trim text).toList = image.registry.toList ++ '/' :: behind
  replaceable : ∀ registry : String, isRegistryHost registry.toList = true → '/' ∉ registry.toList →
    (∀ c ∈ registry.toList.head?, Text.isBlank c = false) →
      parse { image with registry }.render = .ok { image with registry }
  proper : image.Proper ↔ isRegistryName image.registry.toList = true

theorem reference_checked (parsed : parse text = .ok image) : Checked text image := by
  have readable := parse_readable parsed
  refine ⟨readable.components, readable.tagged, readable.unblank, ?_, ?_, ?_⟩
  · have read := (parse_parts parsed).registry
    rcases splitRegistry_cases (Text.trim text).toList with ⟨behind, whole, -, hostlike⟩ | default
    · rw [read] at whole hostlike
      exact .inr ⟨hostlike, behind, whole⟩
    · rw [default] at read
      exact .inl (String.toList_inj.mp read.symm)
  · intro registry hostlike slashless begins
    exact parse_render ⟨hostlike, slashless, begins, readable.components, readable.tagged⟩
  · refine ⟨Proper.registry, fun name => ⟨name, readable.components, readable.tagged, ?_⟩⟩
    intro c member
    rw [render_text] at member
    rcases List.mem_append.mp member with inRegistry | member
    · exact registryName_unblank name c inRegistry
    · rcases List.mem_cons.mp member with rfl | behind
      · decide
      · exact readable.unblank c behind

theorem ported_checked : parse "registry.example.com:5000/team/app:v1.2" = .ok portedImage ∧
    Checked "registry.example.com:5000/team/app:v1.2" portedImage ∧ portedImage.Proper := by
  have parsed : parse "registry.example.com:5000/team/app:v1.2" = .ok portedImage := by
    decide +kernel
  have checked := reference_checked parsed
  exact ⟨parsed, checked, checked.proper.mpr (by decide)⟩

-- A registry with a blank in its name is taken, and comes back in the text of the image.
def blankImage : Image := ⟨"my registry.example.com", "acme/app", none⟩

theorem blank_registry_taken : parse "my registry.example.com/acme/app" = .ok blankImage ∧
    blankImage.render = "my registry.example.com/acme/app" ∧
    (∃ c ∈ blankImage.render.toList, Text.isBlank c = true) ∧ ¬ blankImage.Proper := by
  refine ⟨by decide +kernel, by decide, ⟨' ', by decide, by decide⟩, fun proper => ?_⟩
  exact absurd proper.registry (by decide)

end Rollout.Image
