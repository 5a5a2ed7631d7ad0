import EntityGateway.Store.Document

/-!
# The sample repository

A small repository of six records in five entities: Joe Schmoe (1, two customer records),
Joann Smith (2, watch list), Bill Wright (3, employees), Acme Corp (6, companies) and Mary Major
(7, customers). Entity 1 relates to 2, 2 to 3 and 3 to 6, with a second route from 1 through 7
to 3. Bill Wright's record points to an employer and Acme Corp's record anchors it, under the
same key, so the two disclose an employment relationship.
-/

namespace EntityGateway

/-- The sample repository's contents. -/
def sampleFixture : RepositoryFixture where
  entities := [
    ⟨1, [
      { dataSource := "CUSTOMERS", recordId := "1001", lastSeen := some ⟨1705312800, 0⟩,
        features := [("ADDRESS", ["101 Main St, Las Vegas NV 89101"]), ("DOB", ["1981-01-12"]),
          ("NAME", ["Joe Schmoe"]), ("PHONE", ["702-555-1212"])],
        otherData := ["VIP: yes"] },
      { dataSource := "CUSTOMERS", recordId := "1002", lastSeen := some ⟨1708417800, 0⟩,
        features := [("EMAIL", ["joe@schmoe.com"]), ("NAME", ["JOE SCHMOE"]), ("PHONE", ["(702) 555-1212"])] }]⟩,
    ⟨2, [
      { dataSource := "WATCHLIST", recordId := "2001", lastSeen := some ⟨1698943500, 0⟩,
        features := [("ADDRESS", ["200 Elm St, Boston MA 02110"]), ("DOB", ["1981-01-12"]),
          ("NAME", ["Joann Smith"]), ("PHONE", ["212-555-1212"])] }]⟩,
    ⟨3, [
      { dataSource := "EMPLOYEES", recordId := "3001", lastSeen := some ⟨1709294400, 0⟩,
        features := [("ADDRESS", ["200 Elm Street, Boston MA 02110"]), ("EMAIL", ["bill@wright.net"]),
          ("NAME", ["Bill Wright"]), ("PHONE", ["818-555-1313"])],
        disclosures := [⟨"EMPLOYER", .pointer, "ACME-1", some "EMPLOYEE"⟩] }]⟩,
    ⟨6, [
      { dataSource := "COMPANIES", recordId := "6001", lastSeen := some ⟨1656579600, 0⟩,
        features := [("NAME", ["Acme Corp"]), ("PHONE", ["818-555-1212"])],
        disclosures := [⟨"EMPLOYER", .anchor, "ACME-1", some "EMPLOYER"⟩] }]⟩,
    ⟨7, [
      { dataSource := "CUSTOMERS", recordId := "7001", lastSeen := some ⟨1712845200, 0⟩,
        features := [("ADDRESS", ["101 Main Street, Las Vegas NV 89101"]), ("EMAIL", ["bill@wright.net"]),
          ("NAME", ["Mary Major"])] }]⟩]
  relationships := [
    { entityId := 1, relatedId := 2, level := .possiblyRelated, matchKey := "+DOB" },
    { entityId := 2, relatedId := 3, level := .possiblyRelated, matchKey := "+ADDRESS" },
    { entityId := 3, relatedId := 6, level := .disclosed, matchKey := "+EMPLOYER(EMPLOYEE:EMPLOYER)",
      disclosed := true },
    { entityId := 1, relatedId := 7, level := .possiblyRelated, matchKey := "+ADDRESS" },
    { entityId := 7, relatedId := 3, level := .possiblyRelated, matchKey := "+EMAIL" }]

end EntityGateway
