import Mathlib.Data.List.Flatten
import PlatformOperator.Proofs.Release
import PlatformOperator.Proofs.Text.Bytes
import PlatformOperator.Request

/-! What the digest of a request tells about the inputs of its render. The texts of the inputs are run together, so the
    digest tells what they come to one behind the other, and not where one ends. -/

namespace PlatformOperator

/-! ### Texts behind one another -/

namespace Text

/-- Texts of the same lengths are told from what they come to one behind the other. -/
theorem join_inj_of_lengths {ss ts : List String} :
    ss = ts ↔ String.join ss = String.join ts ∧ ss.map String.length = ts.map String.length := by
  have hlists : ss.map String.toList = ts.map String.toList ↔ ss = ts :=
    List.map_inj_right fun _ _ => String.toList_inj.mp
  rw [← hlists, List.eq_iff_flatten_eq, ← List.flatMap_def, ← List.flatMap_def, ← String.toList_join,
    ← String.toList_join, String.toList_inj, List.map_map, List.map_map]
  rfl

end Text

/-! ### Digests -/

namespace Sha256
variable {x y : List UInt8}

/-- Two messages of one digest. -/
def Collision (x y : List UInt8) : Prop := x ≠ y ∧ digest x = digest y

theorem digest_inj (h : ¬Collision x y) : digest x = digest y ↔ x = y :=
  ⟨fun heq => by_contra fun hne => h ⟨hne, heq⟩, congrArg digest⟩

/-- A hexadecimal digit. -/
def hexDigit (n : Nat) : Char := if n < 10 then Char.ofNat ('0'.toNat + n) else Char.ofNat ('a'.toNat + n - 10)

theorem hexDigit_inj : ∀ m < 16, ∀ n < 16, hexDigit m = hexDigit n → m = n := by decide

/-- The two digits of a byte. -/
def hexDigits (b : UInt8) : List Char := [hexDigit (b.toNat / 16), hexDigit (b.toNat % 16)]

theorem hexDigits_injective {a b : UInt8} (h : hexDigits a = hexDigits b) : a = b := by
  have ha := a.toNat_lt
  have hb := b.toNat_lt
  obtain ⟨hhigh, hlow, -⟩ : _ ∧ _ ∧ True := by simpa only [hexDigits, List.cons.injEq] using h
  have hhigh := hexDigit_inj _ (by omega) _ (by omega) hhigh
  have hlow := hexDigit_inj _ (by omega) _ (by omega) hlow
  exact UInt8.toNat_inj.mp (by omega)

theorem hexText_injective (h : hexText x = hexText y) : x = y := by
  replace h : x.flatMap hexDigits = y.flatMap hexDigits := String.ofList_injective h
  induction x generalizing y with
  | nil =>
    cases y with
    | nil => rfl
    | cons b y => cases h
  | cons a x ih =>
    cases y with
    | nil => cases h
    | cons b y =>
      rw [List.flatMap_cons, List.flatMap_cons] at h
      obtain ⟨hfirst, hrest⟩ := List.append_inj h rfl
      rw [hexDigits_injective hfirst, ih hrest]

end Sha256

namespace Request
variable {q r : Request} {m n : Int}

/-! ### The parts of what is digested -/

theorem length_littleEndian (n : Int) : (littleEndian n).length = 8 := by
  simp [littleEndian]

/-- Numbers of as many bytes differ in one of them. -/
theorem eq_of_bytes {k : Nat} {a b : Nat} (ha : a < wordSize (8 * k)) (hb : b < wordSize (8 * k))
    (h : ∀ i < k, UInt8.ofNat (a >>> (8 * i)) = UInt8.ofNat (b >>> (8 * i))) : a = b := by
  induction k generalizing a b with
  | zero => exact (Nat.lt_one_iff.mp ha).trans (Nat.lt_one_iff.mp hb).symm
  | succ k ih =>
    have hmore : wordSize (8 * (k + 1)) = wordSize (8 * k) * 256 := Nat.pow_add 2 (8 * k) 8
    rw [hmore] at ha hb
    have hlowest := congrArg UInt8.toNat (h 0 (Nat.zero_lt_succ k))
    rw [UInt8.toNat_ofNat', UInt8.toNat_ofNat', Nat.mul_zero, Nat.shiftRight_zero, Nat.shiftRight_zero] at hlowest
    have hshift (n : Nat) : n >>> 8 = n / 256 := Nat.shiftRight_eq_div_pow n 8
    have hrest : a >>> 8 = b >>> 8 := by
      refine ih (by rw [hshift]; omega) (by rw [hshift]; omega) fun i hi => ?_
      have hbyte := h (i + 1) (Nat.succ_lt_succ hi)
      rwa [Nat.mul_succ, Nat.add_comm (8 * i), Nat.shiftRight_add, Nat.shiftRight_add] at hbyte
    rw [hshift, hshift] at hrest
    omega

theorem littleEndian_inj (hm : -(wordSize 63 : Int) ≤ m ∧ m < (wordSize 63 : Int))
    (hn : -(wordSize 63 : Int) ≤ n ∧ n < (wordSize 63 : Int)) (h : littleEndian m = littleEndian n) : m = n := by
  have hhalf : (wordSize 63 : Int) = 9223372036854775808 := rfl
  have hword : (wordSize 64 : Int) = 18446744073709551616 := rfl
  have hbound (n : Int) : (n % (wordSize 64 : Int)).toNat < wordSize (8 * 8) := by
    have hless : n % (wordSize 64 : Int) < (wordSize 64 : Int) := Int.emod_lt_of_pos n (by rw [hword]; decide)
    show _ < wordSize 64
    omega
  have hsame := eq_of_bytes (hbound m) (hbound n) fun i hi => List.map_inj_left.mp h i (List.mem_range.mpr hi)
  rw [hword] at hsame
  omega

/-- The system gave the instance a UID, and its generation is a number of 64 bits. -/
structure Identified (r : Request) : Prop where
  uid : r.subject.metadata.uid.isSome
  generation : -(wordSize 63 : Int) ≤ r.subject.generation ∧ r.subject.generation < (wordSize 63 : Int)

/-- The text of the UID. -/
def uidText (r : Request) : String := r.subject.metadata.uid.getD ""

theorem Identified.uid_eq (hq : q.Identified) (hr : r.Identified) (h : q.uidText = r.uidText) :
    q.subject.metadata.uid = r.subject.metadata.uid := by
  obtain ⟨u, hu⟩ := Option.isSome_iff_exists.mp hq.uid
  obtain ⟨v, hv⟩ := Option.isSome_iff_exists.mp hr.uid
  rw [uidText, uidText, hu, hv, Option.getD_some, Option.getD_some] at h
  rw [hu, hv, h]

/-- The texts that are run together: the version, where manifests are found, and the paths of templates. -/
def texts (r : Request) : List String :=
  r.release.version.text :: (r.manifests.map (·.text) ++ r.templates.map (·.path))

theorem texts_eq_iff : q.texts = r.texts ∧ q.manifests.length = r.manifests.length ↔
    q.release.version = r.release.version ∧ q.manifests.map (·.text) = r.manifests.map (·.text) ∧
      q.templates.map (·.path) = r.templates.map (·.path) := by
  rw [texts, texts, List.cons.injEq]
  constructor
  · rintro ⟨⟨hversion, htexts⟩, hlength⟩
    obtain ⟨hmanifests, htemplates⟩ := List.append_inj htexts (by rw [List.length_map, List.length_map, hlength])
    exact ⟨Version.text_injective hversion, hmanifests, htemplates⟩
  · rintro ⟨hversion, hmanifests, htemplates⟩
    have hlength := congrArg List.length hmanifests
    rw [List.length_map, List.length_map] at hlength
    rw [hversion, hmanifests, htemplates]
    exact ⟨⟨rfl, rfl⟩, hlength⟩

theorem renderBytes_eq (r : Request) :
    r.renderBytes = Text.utf8 r.uidText ++
      (littleEndian r.subject.generation ++ Text.utf8 (r.release.platform.text ++ String.join r.texts)) := by
  rw [texts, String.join_cons, String.join_append, Text.utf8_append, Text.utf8_append, Text.utf8_append, Text.utf8_join,
    Text.utf8_join, List.flatMap_map, List.flatMap_map]
  simp only [renderBytes, List.append_assoc]
  rfl

/-! ### What the digest tells -/

/-- Behind a UID of known size, the generation ends after eight bytes and the platform where it must. All else runs
    together. -/
theorem renderBytes_eq_iff (hq : q.Identified) (hr : r.Identified)
    (hsize : q.uidText.utf8ByteSize = r.uidText.utf8ByteSize) :
    q.renderBytes = r.renderBytes ↔
      q.subject.metadata.uid = r.subject.metadata.uid ∧ q.subject.generation = r.subject.generation ∧
        q.release.platform = r.release.platform ∧ String.join q.texts = String.join r.texts := by
  constructor
  · intro h
    rw [renderBytes_eq, renderBytes_eq] at h
    obtain ⟨huid, h⟩ := List.append_inj h (by rw [Text.length_utf8, Text.length_utf8, hsize])
    obtain ⟨hgeneration, h⟩ := List.append_inj h (by rw [length_littleEndian, length_littleEndian])
    obtain ⟨hplatform, htexts⟩ := Platform.text_append_injective (Text.utf8_injective h)
    exact ⟨hq.uid_eq hr (Text.utf8_injective huid), littleEndian_inj hq.generation hr.generation hgeneration, hplatform,
      htexts⟩
  · rintro ⟨huid, hgeneration, hplatform, htexts⟩
    rw [renderBytes_eq, renderBytes_eq, uidText, huid, hgeneration, hplatform, htexts]
    rfl

theorem hash_eq_iff_bytes (hcoll : ¬Sha256.Collision q.renderBytes r.renderBytes) :
    q.hash = r.hash ↔ q.renderBytes = r.renderBytes := by
  rw [← Sha256.digest_inj hcoll]
  exact ⟨Sha256.hexText_injective, congrArg Sha256.hexText⟩

/-- The texts of both requests have the same lengths one by one, and as many of them are of manifests. -/
structure SameLayout (q r : Request) : Prop where
  uid : q.uidText.utf8ByteSize = r.uidText.utf8ByteSize
  texts : q.texts.map String.length = r.texts.map String.length
  manifests : q.manifests.length = r.manifests.length

theorem SameLayout.of_eq (huid : q.subject.metadata.uid = r.subject.metadata.uid) (htexts : q.texts = r.texts)
    (hlength : q.manifests.length = r.manifests.length) : q.SameLayout r where
  uid := by rw [uidText, uidText, huid]
  texts := by rw [htexts]
  manifests := hlength

/-- Of two requests whose digests do not collide, an equal hash tells that the UIDs, if they are of one size, the
    generations and the platforms are equal, and that the version, the places of the manifests and the paths of the
    templates come to the same if they are run together. Only if all these have the same lengths it tells that each of
    them is the same. It tells nothing about the marks of templates. -/
theorem hash_eq_iff (q r : Request) (hq : q.Identified) (hr : r.Identified)
    (hcoll : ¬Sha256.Collision q.renderBytes r.renderBytes) :
    (q.uidText.utf8ByteSize = r.uidText.utf8ByteSize →
      (q.hash = r.hash ↔
        q.subject.metadata.uid = r.subject.metadata.uid ∧ q.subject.generation = r.subject.generation ∧
          q.release.platform = r.release.platform ∧ String.join q.texts = String.join r.texts)) ∧
      (q.hash = r.hash ∧ q.SameLayout r ↔
        q.subject.metadata.uid = r.subject.metadata.uid ∧ q.subject.generation = r.subject.generation ∧
          q.release = r.release ∧ q.manifests.map (·.text) = r.manifests.map (·.text) ∧
            q.templates.map (·.path) = r.templates.map (·.path)) := by
  rw [hash_eq_iff_bytes hcoll]
  refine ⟨renderBytes_eq_iff hq hr, ?_⟩
  have hrelease : q.release = r.release ↔
      q.release.platform = r.release.platform ∧ q.release.version = r.release.version := by rw [← Release.mk.injEq]
  rw [hrelease]
  constructor
  · rintro ⟨hbytes, hlayout⟩
    obtain ⟨huid, hgeneration, hplatform, hjoin⟩ := (renderBytes_eq_iff hq hr hlayout.uid).mp hbytes
    have htexts := Text.join_inj_of_lengths.mpr ⟨hjoin, hlayout.texts⟩
    obtain ⟨hversion, hmanifests, htemplates⟩ := texts_eq_iff.mp ⟨htexts, hlayout.manifests⟩
    exact ⟨huid, hgeneration, ⟨hplatform, hversion⟩, hmanifests, htemplates⟩
  · rintro ⟨huid, hgeneration, ⟨hplatform, hversion⟩, hmanifests, htemplates⟩
    obtain ⟨htexts, hlength⟩ := texts_eq_iff.mpr ⟨hversion, hmanifests, htemplates⟩
    have hlayout : q.SameLayout r := .of_eq huid htexts hlength
    exact ⟨(renderBytes_eq_iff hq hr hlayout.uid).mpr ⟨huid, hgeneration, hplatform, by rw [htexts]⟩, hlayout⟩

namespace Sample

/-- The inputs of the render of a dashboard at a generation. -/
def rendering (generation : Int) (manifests : List ManifestSource) (templates : List TemplateSource) : Request where
  subject := ⟨Instance.dashboards, { name := some "d", uid := some "d-uid", generation := some generation }, none, none⟩
  config := ⟨"apps", none⟩
  release := default
  conditions := ⟨Condition.ready, [], [], List.not_mem_nil⟩
  manifests := manifests
  templates := templates

theorem rendering_identified {generation : Int}
    (h : -(wordSize 63 : Int) ≤ generation ∧ generation < (wordSize 63 : Int)) (manifests : List ManifestSource)
    (templates : List TemplateSource) : (rendering generation manifests templates).Identified := ⟨rfl, h⟩

/-- Two places of manifests. -/
def two : List ManifestSource := [⟨"/opt", "dashboard", ""⟩, ⟨"/crds", "", ""⟩]

/-- One place of manifests, which reads as the two do. -/
def one : List ManifestSource := [⟨"/opt", "dashboard", "crds"⟩]

end Sample

open Sample in
theorem hash_eq_iff_sample :
    ¬Sha256.Collision (rendering 1 two []).renderBytes (rendering 2 two []).renderBytes ∧
      (rendering 1 two []).hash ≠ (rendering 2 two []).hash := by
  have hdiffer : ¬Sha256.Collision (rendering 1 two []).renderBytes (rendering 2 two []).renderBytes := by
    rintro ⟨-, h⟩
    rw [renderBytes_eq, renderBytes_eq, Text.utf8_eq, Text.utf8_eq, Text.utf8_eq, Text.utf8_eq] at h
    revert h
    decide +kernel
  refine ⟨hdiffer, fun heq => ?_⟩
  have htold := (hash_eq_iff _ _ (rendering_identified (by decide) two []) (rendering_identified (by decide) two [])
    hdiffer).1 rfl
  exact absurd (htold.mp heq).2.1 (by decide)

open Sample in
/-- Neither where one manifest ends nor the labels of a template show in the hash. -/
theorem hash_hides_inputs :
    ((rendering 1 two []).Identified ∧ (rendering 1 one []).Identified ∧
        (rendering 1 two []).hash = (rendering 1 one []).hash ∧ two ≠ one) ∧
      (rendering 1 [] [⟨"/t.yaml", [], []⟩]).hash = (rendering 1 [] [⟨"/t.yaml", [("tier", "web")], []⟩]).hash := by
  have htwo : (rendering 1 two []).Identified := rendering_identified (by decide) two []
  have hone : (rendering 1 one []).Identified := rendering_identified (by decide) one []
  have htexts : String.join (rendering 1 two []).texts = String.join (rendering 1 one []).texts := by decide +kernel
  have hbytes := (renderBytes_eq_iff htwo hone rfl).mpr ⟨rfl, rfl, rfl, htexts⟩
  exact ⟨⟨htwo, hone, congrArg (fun bytes => Sha256.hexText (Sha256.digest bytes)) hbytes, by decide⟩, rfl⟩

end Request
end PlatformOperator
