import Rollout.Definition.Fingerprint
import Rollout.Image
import Rollout.Proofs.Json.Unambiguous
import Rollout.Proofs.Text.Splitting

namespace Rollout.Image

variable {text : String} {image : Image} {cs : List Char}

structure Parsed (cs : List Char) (image : Image) : Prop where
  schemeless : Text.occurs "://".toList cs = false
  registry : (splitRegistry cs).1 = image.registry.toList
  repository : (splitTag (splitRegistry cs).2).1 = image.repository.toList
  tag : (splitTag (splitRegistry cs).2).2 = image.tag.map String.toList
  components : ∀ part ∈ Text.splitChar '/' image.repository.toList, isComponent part = true
  tagged : ∀ tag ∈ image.tag, isTag tag.toList = true

theorem components_filled
    (components : ∀ part ∈ Text.splitChar '/' cs, isComponent part = true) : cs ≠ [] := by
  rintro rfl
  exact absurd (components [] (by simp [Text.splitChar])) (by decide)

theorem parse_parts (parsed : parse text = .ok image) :
    Parsed (Text.trim text).toList image := by
  unfold parse at parsed
  dsimp only at parsed
  generalize Text.trim text = url at parsed ⊢
  split at parsed
  · cases parsed
  split at parsed
  · cases parsed
  next schemeless =>
    split at parsed
    · cases parsed
    split at parsed
    · cases parsed
    next checked =>
      have components := fun part inside => by
        simpa using List.find?_eq_none.mp checked part inside
      split at parsed
      · next untagged =>
        obtain rfl := Except.ok.inj parsed
        refine ⟨by simpa using schemeless, by simp, by simp, by simpa using untagged, ?_, by simp⟩
        simpa using components
      · next tag tagged =>
        split at parsed
        · next legal =>
          obtain rfl := Except.ok.inj parsed
          refine ⟨by simpa using schemeless, by simp, by simp, by simpa using tagged, ?_, ?_⟩
          · simpa using components
          · simpa using legal
        · cases parsed

theorem Parsed.parse (parsed : Parsed (Text.trim text).toList image) :
    parse text = .ok image := by
  unfold Image.parse
  dsimp only
  generalize Text.trim text = url at parsed ⊢
  obtain ⟨registry, repository, tag⟩ := image
  have schemeless := parsed.schemeless
  have components := parsed.components
  have named : (splitTag (splitRegistry url.toList).2).1 ≠ [] :=
    parsed.repository ▸ components_filled components
  have filled : url.toList ≠ [] := by
    intro empty
    rw [empty] at named
    exact named rfl
  have checked : ((Text.splitChar '/' (splitTag (splitRegistry url.toList).2).1).find?
      fun part => !isComponent part) = none := by
    rw [parsed.repository]
    exact List.find?_eq_none.mpr fun part inside => by simp [components part inside]
  rw [if_neg (by simpa using filled), if_neg (by rw [schemeless]; exact Bool.false_ne_true),
    if_neg (by simpa using named), checked]
  cases tag with
  | none => simp [parsed.tag, parsed.registry, parsed.repository]
  | some tag =>
    have legal := parsed.tagged tag rfl
    simp [parsed.tag, parsed.registry, parsed.repository, legal]

-- What an image that was read is like. Nothing more is asked of a registry than that it looks like a
-- host and ends before the first slash.
structure Readable (image : Image) : Prop where
  hostlike : isRegistryHost image.registry.toList = true
  slashless : '/' ∉ image.registry.toList
  begins : ∀ c ∈ image.registry.toList.head?, Text.isBlank c = false
  components : ∀ part ∈ Text.splitChar '/' image.repository.toList, isComponent part = true
  tagged : ∀ tag ∈ image.tag, isTag tag.toList = true

theorem splitRegistry_cases (cs : List Char) :
    (∃ behind, cs = (splitRegistry cs).1 ++ '/' :: behind ∧ splitRegistry cs =
        ((splitRegistry cs).1, behind) ∧ isRegistryHost (splitRegistry cs).1 = true) ∨
      splitRegistry cs = (defaultRegistry.toList, cs) := by
  unfold splitRegistry
  split
  · next host rest found =>
    split
    · next hostlike => exact .inl ⟨rest, Text.splitFirst_some found, rfl, hostlike⟩
    · exact .inr rfl
  · exact .inr rfl

theorem splitRegistry_unslashed (url : List Char) : '/' ∉ (splitRegistry url).1 := by
  have default : '/' ∉ defaultRegistry.toList := by decide
  unfold splitRegistry
  split
  · next host rest found =>
    split
    · exact Text.splitFirst_before found
    · exact default
  · exact default

theorem parse_readable (parsed : parse text = .ok image) : image.Readable := by
  have read := parse_parts parsed
  have slashless := splitRegistry_unslashed (Text.trim text).toList
  rw [read.registry] at slashless
  suffices front : isRegistryHost image.registry.toList = true ∧
      ∀ c ∈ image.registry.toList.head?, Text.isBlank c = false from
    ⟨front.1, slashless, front.2, read.components, read.tagged⟩
  rcases splitRegistry_cases (Text.trim text).toList with ⟨behind, whole, -, hostlike⟩ | default
  · rw [read.registry] at whole hostlike
    refine ⟨hostlike, fun c first => Text.trim_begins text c ?_⟩
    rw [whole, List.head?_append, first]
    rfl
  · have hostlike : isRegistryHost defaultRegistry.toList = true := by decide
    have unblank : defaultRegistry.toList.all (!Text.isBlank ·) = true := by decide
    rw [← read.registry, default]
    refine ⟨hostlike, fun c first => ?_⟩
    simpa using List.all_eq_true.mp unblank c (List.mem_of_mem_head? first)

-- An image whose text can be taken apart: the registry ends at the first slash, and the repository
-- at the colon before the tag.
structure Legible (image : Image) : Prop where
  registry : '/' ∉ image.registry.toList
  repository : ':' ∉ image.repository.toList

theorem components_plain
    (components : ∀ part ∈ Text.splitChar '/' cs, isComponent part = true) :
    ∀ c ∈ cs, c = '/' ∨ isComponentChar c = true := by
  intro c member
  rcases Text.mem_splitChar member with slash | ⟨part, inside, inPart⟩
  · exact .inl slash
  · have component := components part inside
    simp only [isComponent, Bool.and_eq_true, List.all_eq_true] at component
    exact .inr (component.1.1.2 c inPart)

theorem components_uncoloned
    (components : ∀ part ∈ Text.splitChar '/' cs, isComponent part = true) : ':' ∉ cs := by
  intro member
  rcases components_plain components ':' member with slash | plain
  · cases slash
  · exact absurd plain (by decide)

theorem Readable.legible (readable : image.Readable) : image.Legible :=
  ⟨readable.slashless, components_uncoloned readable.components⟩

theorem parse_legible (parsed : parse text = .ok image) : image.Legible :=
  (parse_readable parsed).legible

def tagText : Option String → List Char
  | none => []
  | some tag => ':' :: tag.toList

theorem render_text (image : Image) :
    image.render.toList =
      image.registry.toList ++ '/' :: (image.repository.toList ++ tagText image.tag) := by
  obtain ⟨registry, repository, tag⟩ := image
  cases tag with
  | none => simp [render, name, tagText]
  | some tag => simp [render, name, tagText]

theorem tagText_inj {tag tag' : Option String} (same : tagText tag = tagText tag') :
    tag = tag' := by
  cases tag with
  | none =>
    cases tag' with
    | none => rfl
    | some _ => cases same
  | some _ =>
    cases tag' with
    | none => cases same
    | some _ => exact congrArg some (String.toList_inj.mp (List.cons.inj same).2)

theorem tagText_begins (tag : Option String) : ∀ c ∈ (tagText tag).head?, c = ':' := by
  intro c told
  cases tag with
  | none => cases told
  | some tag => exact (Option.some.inj told).symm

theorem render_inj {a b : Image} (legible : a.Legible) (legible' : b.Legible)
    (same : a.render = b.render) : a = b := by
  have texts := congrArg String.toList same
  rw [render_text, render_text] at texts
  have other : ∀ {sep : Char} {cs : List Char}, sep ∉ cs → ∀ c ∈ cs, (c != sep) = true := by
    intro sep cs missing c member
    exact bne_iff_ne.mpr fun same => missing (same ▸ member)
  obtain ⟨registry, rest⟩ := Text.run_append_inj (other legible.registry)
    (other legible'.registry) (by simp) (by simp) texts
  obtain ⟨repository, tag⟩ := Text.run_append_inj (other legible.repository)
    (other legible'.repository) (by simpa using tagText_begins a.tag)
    (by simpa using tagText_begins b.tag) (List.cons.inj rest).2
  obtain ⟨aRegistry, aRepository, aTag⟩ := a
  obtain ⟨bRegistry, bRepository, bTag⟩ := b
  obtain rfl := String.toList_inj.mp registry
  obtain rfl := String.toList_inj.mp repository
  obtain rfl := tagText_inj tag
  rfl

theorem tag_plain (legal : isTag cs = true) : cs ≠ [] ∧ ∀ c ∈ cs, isTagChar c = true := by
  simp only [isTag, Bool.and_eq_true, Bool.not_eq_true', List.isEmpty_eq_false_iff,
    List.all_eq_true] at legal
  exact ⟨legal.1.1.1, legal.1.2⟩

theorem notMem_tag (legal : isTag cs = true) {sep : Char} (outside : isTagChar sep = false) :
    sep ∉ cs := by
  intro member
  rw [(tag_plain legal).2 sep member] at outside
  cases outside

theorem splitTag_render {repository : List Char} {tag : Option String}
    (components : ∀ part ∈ Text.splitChar '/' repository, isComponent part = true)
    (tagged : ∀ t ∈ tag, isTag t.toList = true) :
    splitTag (repository ++ tagText tag) = (repository, tag.map String.toList) := by
  cases tag with
  | none =>
    rw [tagText, List.append_nil, splitTag, Text.splitLast_none (components_uncoloned components)]
    rfl
  | some t =>
    have colon : ':' ∉ t.toList := notMem_tag (tagged t rfl) (by decide)
    have slash : '/' ∉ t.toList := notMem_tag (tagged t rfl) (by decide)
    have whole : t.toList.contains '/' = false := by simpa using slash
    rw [tagText, splitTag, Text.splitLast_append repository colon]
    simp only [whole]
    rfl

theorem Readable.splitRegistry (readable : image.Readable) :
    splitRegistry image.render.toList =
      (image.registry.toList, image.repository.toList ++ tagText image.tag) := by
  rw [Image.splitRegistry, render_text, Text.splitFirst_append readable.slashless]
  exact if_pos readable.hostlike

theorem tagText_slashless {tag : Option String} (tagged : ∀ t ∈ tag, isTag t.toList = true) :
    '/' ∉ tagText tag := by
  cases tag with
  | none => exact List.not_mem_nil
  | some t =>
    have slash : '/' ∉ t.toList := notMem_tag (tagged t rfl) (by decide)
    simpa [tagText] using slash

theorem components_begin
    (components : ∀ part ∈ Text.splitChar '/' cs, isComponent part = true) :
    ∀ c ∈ cs.head?, c ≠ '/' := by
  rintro c first rfl
  obtain ⟨more, rfl⟩ := List.head?_eq_some_iff.mp first
  refine absurd (components [] ?_) (by decide)
  rw [Text.splitChar, if_pos rfl]
  exact List.mem_cons_self

theorem Readable.schemeless (readable : image.Readable) :
    Text.occurs "://".toList image.render.toList = false := by
  have filled : ∀ part ∈ Text.splitChar '/' image.repository.toList, part ≠ [] := by
    rintro part inside rfl
    exact absurd (readable.components [] inside) (by decide)
  have tagged : (image.repository.toList ++ tagText image.tag).IsChain
      fun a b => a = '/' → b ≠ '/' := by
    refine List.isChain_append.mpr ⟨Text.splitChar_apart fun part inside =>
      filled part (List.mem_of_mem_tail inside),
      Text.apart_of_missing (tagText_slashless readable.tagged), ?_⟩
    intro a _ b first _
    rw [tagText_begins image.tag b first]
    decide
  have apart : image.render.toList.IsChain fun a b => a = '/' → b ≠ '/' := by
    rw [render_text]
    refine List.isChain_append.mpr ⟨Text.apart_of_missing readable.slashless,
      List.isChain_cons.mpr ⟨fun c first _ => ?_, tagged⟩, ?_⟩
    · rw [List.head?_append_of_ne_nil _ (components_filled readable.components)] at first
      exact components_begin readable.components c first
    · intro a last b _ same
      exact absurd (same ▸ List.mem_of_mem_getLast? last) readable.slashless
  refine Bool.eq_false_iff.mpr fun found => ?_
  have meet := apart.infix (Text.occurs_infix found)
  exact absurd meet (by decide)

-- All that may stand in a tag lies between the hyphen and the last letter, where no blank is.
theorem tagChar_unblank {c : Char} (plain : isTagChar c = true) : Text.isBlank c = false := by
  simp only [isTagChar, Text.isAlphanumeric, Text.isDigit, Text.isLower, Text.isUpper,
    Bool.or_eq_true, Bool.and_eq_true, decide_eq_true_eq, beq_iff_eq] at plain
  have between : '-' ≤ c ∧ c ≤ 'z' := by
    have first : '-' ≤ '0' ∧ '-' ≤ 'a' ∧ '-' ≤ 'A' := by decide
    have last : '9' ≤ 'z' ∧ 'Z' ≤ 'z' := by decide
    rcases plain with (((((digit | lower) | upper) | rfl) | rfl) | rfl)
    · exact ⟨Char.le_trans first.1 digit.1, Char.le_trans digit.2 last.1⟩
    · exact ⟨Char.le_trans first.2.1 lower.1, lower.2⟩
    · exact ⟨Char.le_trans first.2.2 upper.1, Char.le_trans upper.2 last.2⟩
    · decide
    · decide
    · decide
  have above : 45 ≤ c.toNat := between.1
  have below : c.toNat ≤ 122 := between.2
  simp only [Text.isBlank, Bool.or_eq_false_iff, Bool.and_eq_false_iff, decide_eq_false_iff_not,
    beq_eq_false_iff_ne]
  omega

theorem componentChar_tagChar {c : Char} (plain : isComponentChar c = true) :
    isTagChar c = true := by
  simp only [isComponentChar, isTagChar, Text.isAlphanumeric, Bool.or_eq_true] at plain ⊢
  tauto

theorem Readable.unblank (readable : image.Readable) :
    ∀ c ∈ image.repository.toList ++ tagText image.tag, Text.isBlank c = false := by
  intro c member
  rcases List.mem_append.mp member with inRepository | inTag
  · rcases components_plain readable.components c inRepository with rfl | plain
    · decide
    · exact tagChar_unblank (componentChar_tagChar plain)
  · cases tag : image.tag with
    | none => rw [tag] at inTag; cases inTag
    | some t =>
      rw [tag] at inTag
      rcases List.mem_cons.mp inTag with rfl | inTag
      · decide
      · exact tagChar_unblank ((tag_plain (readable.tagged t tag)).2 c inTag)

theorem Readable.trimmed (readable : image.Readable) : Text.trim image.render = image.render := by
  have named : image.registry.toList ≠ [] := fun empty =>
    absurd (empty ▸ readable.hostlike) (by decide)
  refine Text.trim_of_ends ?_ ?_
  · rw [render_text, List.head?_append_of_ne_nil _ named]
    exact readable.begins
  · intro c last
    rw [render_text, List.getLast?_append_of_ne_nil _ (List.cons_ne_nil _ _)] at last
    rcases List.mem_cons.mp (List.mem_of_mem_getLast? last) with rfl | behind
    · decide
    · exact readable.unblank c behind

theorem parse_render (readable : image.Readable) : parse image.render = .ok image := by
  refine Parsed.parse ?_
  rw [readable.trimmed]
  have parts := readable.splitRegistry
  have tag := splitTag_render readable.components readable.tagged
  exact ⟨readable.schemeless, by rw [parts], by rw [parts, tag], by rw [parts, tag],
    readable.components, readable.tagged⟩

theorem Readable.withTag {tag : String} (readable : image.Readable)
    (legal : isTag tag.toList = true) : (image.withTag tag).Readable where
  hostlike := readable.hostlike
  slashless := readable.slashless
  begins := readable.begins
  components := readable.components
  tagged := fun _ same => Option.some.inj same ▸ legal

theorem fingerprint_legal (message : List UInt8) :
    isTag ((Fingerprint.ofBytes message).toList.take Fingerprint.tagLength) = true := by
  obtain ⟨b, bytes, digest⟩ : ∃ b bytes, Sha256.digest message = b :: bytes := ⟨_, _, rfl⟩
  have digits : ∀ n < 16, isTagChar (Text.hexDigit n) = true ∧
      (Text.hexDigit n == '.' || Text.hexDigit n == '-') = false := by decide
  have plain : ∀ c ∈ (Fingerprint.ofBytes message).toList.take Fingerprint.tagLength,
      isTagChar c = true := by
    intro c member
    obtain ⟨n, bound, rfl⟩ := Hex.mem_encode (List.mem_of_mem_take member)
    exact (digits n bound).1
  have short : ((Fingerprint.ofBytes message).toList.take Fingerprint.tagLength).length ≤ 128 :=
    (List.length_take_le _ _).trans (by decide)
  have first : (Fingerprint.ofBytes message).toList.take Fingerprint.tagLength =
      Text.hexDigit (b.toNat / 16) ::
        (Text.hexDigit (b.toNat % 16) :: (Hex.encode bytes).toList).take 11 := by
    rw [Fingerprint.ofBytes, Sha256.hexDigest, digest, Hex.encode_cons]
    rfl
  have bound := b.toNat_lt
  have begins := (digits (b.toNat / 16) (by omega)).2
  simp only [isTag, Bool.and_eq_true]
  refine ⟨⟨⟨?_, decide_eq_true short⟩, List.all_eq_true.mpr plain⟩, ?_⟩
  · rw [first]
    rfl
  · rw [first, List.head?_cons, Option.any_some, begins]
    rfl

theorem defaultTag_legal {host : Host} {env : Environment} {root tag : String}
    (made : Fingerprint.defaultTag host env root = .ok tag) : isTag tag.toList = true := by
  unfold Fingerprint.defaultTag at made
  cases hashed : Fingerprint.ofContext host (Path.join root env.docker.buildContext) with
  | error e => rw [hashed] at made; cases made
  | ok context =>
    rw [hashed] at made
    obtain rfl := Except.ok.inj made
    rw [String.toList_ofList]
    exact fingerprint_legal _

-- All texts that are read, and all tags that are put to what was read.
theorem references_return (url : String) (image : Image) (parsed : parse url = .ok image) :
    parse image.render = .ok image ∧
      (∀ tag : String, isTag tag.toList = true →
        parse (image.withTag tag).render = .ok (image.withTag tag)) ∧
      (∀ host env root tag, Fingerprint.defaultTag host env root = .ok tag →
        parse (image.withTag tag).render = .ok (image.withTag tag)) ∧
      ∀ url' image', parse url' = .ok image' → image'.render = image.render → image' = image := by
  have readable := parse_readable parsed
  refine ⟨parse_render readable, fun tag legal => parse_render (readable.withTag legal),
    fun host env root tag made => parse_render (readable.withTag (defaultTag_legal made)),
    fun url' image' parsed' same => ?_⟩
  have back : parse image'.render = .ok image' := parse_render (parse_readable parsed')
  rw [same, parse_render readable] at back
  exact (Except.ok.inj back).symm

def portedImage : Image := ⟨"registry.example.com:5000", "team/app", some "v1.2"⟩

theorem ported_returns :
    parse "\t registry.example.com:5000/team/app:v1.2 " = .ok portedImage ∧
      parse portedImage.render = .ok portedImage ∧
      parse (portedImage.withTag "0f3a").render = .ok (portedImage.withTag "0f3a") := by
  have parsed : parse "\t registry.example.com:5000/team/app:v1.2 " = .ok portedImage := by
    decide +kernel
  obtain ⟨back, tagged, -⟩ := references_return _ portedImage parsed
  exact ⟨parsed, back, tagged "0f3a" (by decide)⟩

end Rollout.Image
