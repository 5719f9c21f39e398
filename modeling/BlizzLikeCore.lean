import BlizzLikeCore.Mail.CashOnDelivery
import BlizzLikeCore.Mail.Attachments
import BlizzLikeCore.Auction.Gold
import BlizzLikeCore.Loot.Unlooted
import BlizzLikeCore.Loot.RollWinner
import BlizzLikeCore.Loot.Tally
import BlizzLikeCore.Loot.QuestDrops
import BlizzLikeCore.Group.SubGroups
import BlizzLikeCore.Group.Roles
import BlizzLikeCore.Net.Incoming
import BlizzLikeCore.Net.HeaderCipher
import BlizzLikeCore.Net.ByteBuffer
import BlizzLikeCore.Events.Lifetime
import BlizzLikeCore.Pools.Amounts
import BlizzLikeCore.Pools.Circles
import BlizzLikeCore.Guild.BankMoney
import BlizzLikeCore.Trade.Partners
import BlizzLikeCore.Trade.Exchange
import BlizzLikeCore.Guild.RankRights
import BlizzLikeCore.Guild.BankAllowance
import BlizzLikeCore.Guild.BankTabs
import BlizzLikeCore.Instances.GlobalResets
import BlizzLikeCore.Threat.Containers
import BlizzLikeCore.Chat.Owners
import BlizzLikeCore.Quests.ItemCounts
import BlizzLikeCore.Auth.Chunks
import BlizzLikeCore.Auth.Accounts
import BlizzLikeCore.Database.Transactions
import BlizzLikeCore.Database.Isolation
import BlizzLikeCore.Database.DbcRecords
import BlizzLikeCore.Objects.Viewers
import BlizzLikeCore.BattleGround.SelectionPool
import BlizzLikeCore.Petitions.SignLimits
import BlizzLikeCore.Instances.InstanceResets
import BlizzLikeCore.Collision.ModelCounts
import BlizzLikeCore.Collision.BoxSubdivision
import BlizzLikeCore.Collision.HierarchyBuild
import BlizzLikeCore.Collision.BuildTurns
import BlizzLikeCore.Collision.BoxesSettle
import BlizzLikeCore.Collision.BuiltTrees
import BlizzLikeCore.Collision.BuildOutcomes
import BlizzLikeCore.Collision.PointSearch
import BlizzLikeCore.Collision.Hierarchies
import BlizzLikeCore.Maps.GridReferences
import BlizzLikeCore.Maps.CellContainers
import BlizzLikeCore.Net.OutBufferSpace
import BlizzLikeCore.Threat.VictimChoice
import BlizzLikeCore.Instances.PackInstances
import BlizzLikeCore.Guild.RanksLoad
import BlizzLikeCore.Guild.BankEventLog
import BlizzLikeCore.Mail.Postage
import BlizzLikeCore.Inventory.DestroyCount
import BlizzLikeCore.Vendor.Buyback
import BlizzLikeCore.Loot.SlotBounds
import BlizzLikeCore.Loot.LootView
import BlizzLikeCore.BattleGround.BattleGroundQueue
import BlizzLikeCore.BattleGround.QueueUpdate
import BlizzLikeCore.BattleGround.Invitations
import BlizzLikeCore.BattleGround.NewMatch
import BlizzLikeCore.Group.SubGroupChanges
import BlizzLikeCore.Quests.PreviousQuests
import BlizzLikeCore.Mail.MailList
import BlizzLikeCore.Trade.TradeGold
import BlizzLikeCore.Group.Looter
import BlizzLikeCore.Lib.Sha1
import BlizzLikeCore.Auth.HonestClient
import BlizzLikeCore.Auction.AuctionList
import BlizzLikeCore.BattleGround.ArenaJoin
import BlizzLikeCore.Maps.CellVisits
import BlizzLikeCore.Inventory.DestroyExact
import BlizzLikeCore.Inventory.NewItems
import BlizzLikeCore.Quests.QuestRewards
import BlizzLikeCore.Lib.TriangleFan
import BlizzLikeCore.Maps.GridHeights
import BlizzLikeCore.Motion.Transports
import BlizzLikeCore.Net.PacketHeader
import BlizzLikeCore.Loot.Conditions
import BlizzLikeCore.Chat.SocialList
import BlizzLikeCore.Util.LineChars
import BlizzLikeCore.Inventory.BagSlots
import BlizzLikeCore.Util.TimeStrings
import BlizzLikeCore.Util.WideStrings
import BlizzLikeCore.Objects.UpdateMask
import BlizzLikeCore.Database.PlayerDump
import BlizzLikeCore.Spells.SpellRanks
import BlizzLikeCore.Events.GameEvents
import BlizzLikeCore.Objects.UpdateData
import BlizzLikeCore.Spells.AbsorbResist
import BlizzLikeCore.Inventory.UpdateQueue
import BlizzLikeCore.Objects.Experience
