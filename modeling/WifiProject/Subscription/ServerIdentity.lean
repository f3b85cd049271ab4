import WifiProject.Database.JsonImport
import WifiProject.Lib.Decimal
import WifiProject.Lib.Text
import WifiProject.Subscription.SyncInvariant

/-!
`Profile.formattedAddress` as a key. A host with a colon stands in brackets, so
the text tells both formats apart; the port follows the last colon.
-/

namespace WifiProject.Subscription

open Lib Database

/-- The same server: host and port. -/
def SameServer (profile other : Profile) : Prop :=
  profile.host = other.host ∧ profile.remotePort = other.remotePort

section FormattedAddress

variable {profile other : Profile}

/-- What stands before the last colon. -/
def hostText (profile : Profile) : List Char :=
  if ':' ∈ profile.host.toList then '[' :: profile.host.toList ++ [']'] else profile.host.toList

theorem toList_formattedAddress (profile : Profile) :
    profile.formattedAddress.toList =
      hostText profile ++ ':' :: (ToString.toString profile.remotePort).toList := by
  unfold Profile.formattedAddress hostText
  split
  · simp [String.toList_append]
  · simp [String.toList_append]

theorem colon_not_mem_port (port : Int) : ':' ∉ (ToString.toString port).toList := by
  intro hmem
  rcases Decimal.minus_or_digit_of_mem hmem with heq | hdigit
  · exact absurd heq (by decide)
  · exact absurd hdigit (by decide)

/-- Only a host with a colon has a text with one. -/
theorem colon_mem_hostText : ':' ∈ hostText profile ↔ ':' ∈ profile.host.toList := by
  unfold hostText
  split
  · rename_i hcolon
    simp [hcolon]
  · exact Iff.rfl

theorem host_eq_of_hostText_eq (h : hostText profile = hostText other) :
    profile.host = other.host := by
  have hcolon : ':' ∈ profile.host.toList ↔ ':' ∈ other.host.toList := by
    rw [← colon_mem_hostText, h, colon_mem_hostText]
  unfold hostText at h
  by_cases hmem : ':' ∈ profile.host.toList
  · rw [if_pos hmem, if_pos (hcolon.mp hmem), List.append_left_inj, List.cons.injEq] at h
    exact String.toList_inj.mp h.2
  · rw [if_neg hmem, if_neg (hmem ∘ hcolon.mpr)] at h
    exact String.toList_inj.mp h

theorem sameServer_of_formattedAddress (h : profile.formattedAddress = other.formattedAddress) :
    SameServer profile other := by
  have htext := congrArg String.toList h
  rw [toList_formattedAddress, toList_formattedAddress] at htext
  -- Both ports follow the last colon of the text.
  have hreverse := congrArg List.reverse htext
  simp only [List.reverse_append, List.reverse_cons, List.append_assoc, List.singleton_append]
    at hreverse
  have hport (port : Int) : ':' ∉ (ToString.toString port).toList.reverse := by
    rw [List.mem_reverse]
    exact colon_not_mem_port port
  have hcut := congrArg (Text.cut ':') hreverse
  rw [Text.cut_append (hport _), Text.cut_append (hport _), Prod.mk.injEq, Option.some.injEq,
    List.reverse_inj, List.reverse_inj] at hcut
  exact ⟨host_eq_of_hostText_eq hcut.2, Decimal.toString_inj hcut.1⟩

end FormattedAddress

/-- Profiles with one address are one server: what the map of `createProfilesFromJson`
finds at an address, and the row that a subscription finds for a key, are the
server that was looked for. -/
theorem formattedAddress_identifies :
    (∀ profile other : Profile, profile.formattedAddress = other.formattedAddress →
      SameServer profile other) ∧
    (∀ (profiles : List Profile) (profile old : Profile),
      lastAt profiles profile.formattedAddress = some old → SameServer old profile) ∧
    (∀ (rows : List Profile) (profile row : Profile),
      firstSubscribed rows profile.key = some row →
        row.name = profile.name ∧ SameServer row profile) := by
  refine ⟨fun _ _ => sameServer_of_formattedAddress, ?_, ?_⟩
  · intro profiles profile old hold
    have haddress := List.find?_some hold
    exact sameServer_of_formattedAddress (by simpa using haddress)
  · intro rows profile row hrow
    have hfound := List.find?_some hrow
    simp only [decide_eq_true_eq] at hfound
    obtain ⟨hname, haddress⟩ := Prod.mk.injEq .. ▸ hfound.2
    exact ⟨hname, sameServer_of_formattedAddress haddress⟩

end WifiProject.Subscription
