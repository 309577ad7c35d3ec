import DocSearch.Main
import DocSearch.Service.Settings
import DocSearch.Proofs.Backend.TagCounts
import DocSearch.Proofs.Cache.Together
import DocSearch.Proofs.Cache.Trailing
import DocSearch.Proofs.Cache.Writers
import DocSearch.Proofs.Console.ChangeTag
import DocSearch.Proofs.Page
import DocSearch.Proofs.Query.Tokens
import DocSearch.Proofs.Request.Compile
import DocSearch.Proofs.Service.Rejected
import DocSearch.Proofs.Token.Canonical
import DocSearch.Proofs.Token.RoundTrip
import DocSearch.Proofs.Text.Lower
import DocSearch.Proofs.Query.TagSearch
import DocSearch.Proofs.Service.Call
import DocSearch.Proofs.Service.SingleFile
import DocSearch.Proofs.Service.TagOrigin
import DocSearch.Proofs.Binary64.Shortest
import DocSearch.Proofs.Json.NumberText
import DocSearch.Proofs.Json.Reread
import DocSearch.Proofs.Json.Fields
import DocSearch.Proofs.Json.Record
import DocSearch.Proofs.Stats.Dashboard
import DocSearch.Proofs.Console.Answer
import DocSearch.Proofs.Query.Period
import DocSearch.Proofs.Stats.Window
import DocSearch.Proofs.Cache.Flush
import DocSearch.Proofs.Stats.Sections
import DocSearch.Proofs.Query.FreeText
import DocSearch.Proofs.Request.Normal
import DocSearch.Proofs.Page.Parse
import DocSearch.Proofs.Cache.Guarded
import DocSearch.Proofs.Cache.Session
import DocSearch.Proofs.Request.Written
import DocSearch.Proofs.Cache.Listing
import DocSearch.Proofs.Cache.RoundTrip
import DocSearch.Proofs.Store.History
import DocSearch.Proofs.Store.Tables
