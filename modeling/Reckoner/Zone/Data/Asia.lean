import Reckoner.Zone.Timetable

/-!
# Asia

The regions of Asia and when their clocks changed.
-/

namespace Reckoner.Zone.Data

/-- The regions of Asia and when their clocks changed. -/
def asia : List RegionEntry := [
  { name := "Asia/Almaty", initial := 18468,
    rule := none,
    changes :=
      ["-1441170468:18000 -1247547600:21600 354909600:25200 370717200:21600 386445600:25200",
       "402253200:21600 417981600:25200 433789200:21600 449604000:25200 465336000:21600",
       "481060800:25200 496785600:21600 512510400:25200 528235200:21600 543960000:25200",
       "559684800:21600 575409600:25200 591134400:21600 606859200:25200 622584000:21600",
       "638308800:25200 654638400:21600 686091600:18000 695768400:21600 701812800:25200",
       "717537600:21600 733262400:25200 748987200:21600 764712000:25200 780436800:21600",
       "796161600:25200 811886400:21600 828216000:25200 846360000:21600 859665600:25200",
       "877809600:21600 891115200:25200 909259200:21600 922564800:25200 941313600:21600",
       "954014400:25200 972763200:21600 985464000:25200 1004212800:21600 1017518400:25200",
       "1035662400:21600 1048968000:25200 1067112000:21600 1080417600:25200",
       "1099166400:21600 1709229600:18000"] },
  { name := "Asia/Amman", initial := 8624,
    rule := none,
    changes :=
      ["-1230776624:7200 108165600:10800 118270800:7200 136591200:10800 149806800:7200",
       "168127200:10800 181342800:7200 199749600:10800 215643600:7200 231285600:10800",
       "244501200:7200 262735200:10800 275950800:7200 481154400:10800 496962000:7200",
       "512949600:10800 528670800:7200 544399200:10800 560120400:7200 575848800:10800",
       "592174800:7200 610581600:10800 623624400:7200 641167200:10800 655074000:7200",
       "671839200:10800 685918800:7200 702856800:10800 717973200:7200 733701600:10800",
       "749422800:7200 765151200:10800 779662800:7200 797205600:10800 811116000:7200",
       "828655200:10800 843170400:7200 860104800:10800 874620000:7200 891554400:10800",
       "906069600:7200 930780000:10800 938124000:7200 954367200:10800 970178400:7200",
       "985816800:10800 1001628000:7200 1017352800:10800 1033077600:7200 1048802400:10800",
       "1066946400:7200 1080252000:10800 1097791200:7200 1112306400:10800 1128031200:7200",
       "1143756000:10800 1161900000:7200 1175205600:10800 1193349600:7200 1206655200:10800",
       "1225404000:7200 1238104800:10800 1256853600:7200 1269554400:10800 1288303200:7200",
       "1301608800:10800 1319752800:7200 1333058400:10800 1387486800:7200 1395957600:10800",
       "1414706400:7200 1427407200:10800 1446156000:7200 1459461600:10800 1477605600:7200",
       "1490911200:10800 1509055200:7200 1522360800:10800 1540504800:7200 1553810400:10800",
       "1571954400:7200 1585260000:10800 1604008800:7200 1616709600:10800 1635458400:7200",
       "1645740000:10800"] },
  { name := "Asia/Anadyr", initial := 42596,
    rule := none,
    changes :=
      ["-1441194596:43200 -1247572800:46800 354884400:50400 370692000:46800 402231600:43200",
       "417960000:46800 433767600:43200 449582400:46800 465314400:43200 481039200:46800",
       "496764000:43200 512488800:46800 528213600:43200 543938400:46800 559663200:43200",
       "575388000:46800 591112800:43200 606837600:46800 622562400:43200 638287200:46800",
       "654616800:43200 686070000:39600 695746800:43200 701791200:46800 717516000:43200",
       "733240800:46800 748965600:43200 764690400:46800 780415200:43200 796140000:46800",
       "811864800:43200 828194400:46800 846338400:43200 859644000:46800 877788000:43200",
       "891093600:46800 909237600:43200 922543200:46800 941292000:43200 953992800:46800",
       "972741600:43200 985442400:46800 1004191200:43200 1017496800:46800 1035640800:43200",
       "1048946400:46800 1067090400:43200 1080396000:46800 1099144800:43200",
       "1111845600:46800 1130594400:43200 1143295200:46800 1162044000:43200",
       "1174744800:46800 1193493600:43200 1206799200:46800 1224943200:43200",
       "1238248800:46800 1256392800:43200 1288450800:39600 1301151600:43200"] },
  { name := "Asia/Aqtau", initial := 12064,
    rule := none,
    changes :=
      ["-1441164064:14400 -1247544000:18000 370724400:21600 402256800:18000 417985200:21600",
       "433792800:18000 449607600:21600 465339600:18000 481064400:21600 496789200:18000",
       "512514000:21600 528238800:18000 543963600:21600 559688400:18000 575413200:21600",
       "591138000:18000 606862800:21600 622587600:18000 638312400:21600 654642000:18000",
       "686095200:14400 695772000:18000 701816400:21600 717541200:18000 733266000:21600",
       "748990800:18000 764715600:21600 780440400:14400 796168800:18000 811893600:14400",
       "828223200:18000 846367200:14400 859672800:18000 877816800:14400 891122400:18000",
       "909266400:14400 922572000:18000 941320800:14400 954021600:18000 972770400:14400",
       "985471200:18000 1004220000:14400 1017525600:18000 1035669600:14400 1048975200:18000",
       "1067119200:14400 1080424800:18000"] },
  { name := "Asia/Aqtobe", initial := 13720,
    rule := none,
    changes :=
      ["-1441165720:14400 -1247544000:18000 354913200:21600 402256800:18000 417985200:21600",
       "433792800:18000 449607600:21600 465339600:18000 481064400:21600 496789200:18000",
       "512514000:21600 528238800:18000 543963600:21600 559688400:18000 575413200:21600",
       "591138000:18000 606862800:21600 622587600:18000 638312400:21600 654642000:18000",
       "686095200:14400 695772000:18000 701816400:21600 717541200:18000 733266000:21600",
       "748990800:18000 764715600:21600 780440400:18000 796165200:21600 811890000:18000",
       "828219600:21600 846363600:18000 859669200:21600 877813200:18000 891118800:21600",
       "909262800:18000 922568400:21600 941317200:18000 954018000:21600 972766800:18000",
       "985467600:21600 1004216400:18000 1017522000:21600 1035666000:18000 1048971600:21600",
       "1067115600:18000 1080421200:21600 1099170000:18000"] },
  { name := "Asia/Ashgabat", initial := 14012,
    rule := none,
    changes :=
      ["-1441166012:14400 -1247544000:18000 354913200:21600 370720800:18000 386449200:21600",
       "402256800:18000 417985200:21600 433792800:18000 449607600:21600 465339600:18000",
       "481064400:21600 496789200:18000 512514000:21600 528238800:18000 543963600:21600",
       "559688400:18000 575413200:21600 591138000:18000 606862800:21600 622587600:18000",
       "638312400:21600 654642000:18000 686095200:14400 695772000:18000"] },
  { name := "Asia/Atyrau", initial := 12464,
    rule := none,
    changes :=
      ["-1441164464:10800 -1247540400:18000 370724400:21600 402256800:18000 417985200:21600",
       "433792800:18000 449607600:21600 465339600:18000 481064400:21600 496789200:18000",
       "512514000:21600 528238800:18000 543963600:21600 559688400:18000 575413200:21600",
       "591138000:18000 606862800:21600 622587600:18000 638312400:21600 654642000:18000",
       "686095200:14400 695772000:18000 701816400:21600 717541200:18000 733266000:21600",
       "748990800:18000 764715600:21600 780440400:18000 796165200:21600 811890000:18000",
       "828219600:21600 846363600:18000 859669200:21600 877813200:18000 891118800:21600",
       "909262800:18000 941320800:14400 954021600:18000 972770400:14400 985471200:18000",
       "1004220000:14400 1017525600:18000 1035669600:14400 1048975200:18000",
       "1067119200:14400 1080424800:18000"] },
  { name := "Asia/Baghdad", initial := 10660,
    rule := none,
    changes :=
      ["-2524532260:10656 -1641005856:10800 389048400:14400 402264000:10800 417906000:14400",
       "433800000:10800 449614800:14400 465422400:10800 481150800:14400 496792800:10800",
       "512517600:14400 528242400:10800 543967200:14400 559692000:10800 575416800:14400",
       "591141600:10800 606866400:14400 622591200:10800 638316000:14400 654645600:10800",
       "670464000:14400 686275200:10800 702086400:14400 717897600:10800 733622400:14400",
       "749433600:10800 765158400:14400 780969600:10800 796694400:14400 812505600:10800",
       "828316800:14400 844128000:10800 859852800:14400 875664000:10800 891388800:14400",
       "907200000:10800 922924800:14400 938736000:10800 954547200:14400 970358400:10800",
       "986083200:14400 1001894400:10800 1017619200:14400 1033430400:10800 1049155200:14400",
       "1064966400:10800 1080777600:14400 1096588800:10800 1112313600:14400",
       "1128124800:10800 1143849600:14400 1159660800:10800 1175385600:14400",
       "1191196800:10800"] },
  { name := "Asia/Baku", initial := 11964,
    rule := none,
    changes :=
      ["-1441163964:10800 -405140400:14400 354916800:18000 370724400:14400 386452800:18000",
       "402260400:14400 417988800:18000 433796400:14400 449611200:18000 465343200:14400",
       "481068000:18000 496792800:14400 512517600:18000 528242400:14400 543967200:18000",
       "559692000:14400 575416800:18000 591141600:14400 606866400:18000 622591200:14400",
       "638316000:18000 654645600:14400 686098800:10800 701823600:14400 828234000:18000",
       "846378000:14400 859680000:18000 877824000:14400 891129600:18000 909273600:14400",
       "922579200:18000 941328000:14400 954028800:18000 972777600:14400 985478400:18000",
       "1004227200:14400 1017532800:18000 1035676800:14400 1048982400:18000",
       "1067126400:14400 1080432000:18000 1099180800:14400 1111881600:18000",
       "1130630400:14400 1143331200:18000 1162080000:14400 1174780800:18000",
       "1193529600:14400 1206835200:18000 1224979200:14400 1238284800:18000",
       "1256428800:14400 1269734400:18000 1288483200:14400 1301184000:18000",
       "1319932800:14400 1332633600:18000 1351382400:14400 1364688000:18000",
       "1382832000:14400 1396137600:18000 1414281600:14400 1427587200:18000",
       "1445731200:14400"] },
  { name := "Asia/Bangkok", initial := 24124,
    rule := none,
    changes :=
      ["-1570084924:25200"] },
  { name := "Asia/Barnaul", initial := 20100,
    rule := none,
    changes :=
      ["-1579844100:21600 -1247551200:25200 354906000:28800 370713600:25200 386442000:28800",
       "402249600:25200 417978000:28800 433785600:25200 449600400:28800 465332400:25200",
       "481057200:28800 496782000:25200 512506800:28800 528231600:25200 543956400:28800",
       "559681200:25200 575406000:28800 591130800:25200 606855600:28800 622580400:25200",
       "638305200:28800 654634800:25200 686088000:21600 695764800:25200 701809200:28800",
       "717534000:25200 733258800:28800 748983600:25200 764708400:28800 780433200:25200",
       "796158000:28800 801590400:25200 811886400:21600 828216000:25200 846360000:21600",
       "859665600:25200 877809600:21600 891115200:25200 909259200:21600 922564800:25200",
       "941313600:21600 954014400:25200 972763200:21600 985464000:25200 1004212800:21600",
       "1017518400:25200 1035662400:21600 1048968000:25200 1067112000:21600",
       "1080417600:25200 1099166400:21600 1111867200:25200 1130616000:21600",
       "1143316800:25200 1162065600:21600 1174766400:25200 1193515200:21600",
       "1206820800:25200 1224964800:21600 1238270400:25200 1256414400:21600",
       "1269720000:25200 1288468800:21600 1301169600:25200 1414263600:21600",
       "1459022400:25200"] },
  { name := "Asia/Beirut", initial := 8520,
    rule := some ⟨1999, 7200, 10800, ⟨3, 5, 0, 0⟩, ⟨10, 5, 0, 0⟩⟩,
    changes :=
      ["-2840149320:7200 -1570413600:10800 -1552186800:7200 -1538359200:10800",
       "-1522551600:7200 -1507514400:10800 -1490583600:7200 -1473645600:10800",
       "-1460948400:7200 -399866400:10800 -386650800:7200 -368330400:10800 -355114800:7200",
       "-336794400:10800 -323578800:7200 -305172000:10800 -291956400:7200 -273636000:10800",
       "-260420400:7200 78012000:10800 86734800:7200 105055200:10800 118270800:7200",
       "136591200:10800 149806800:7200 168127200:10800 181342800:7200 199749600:10800",
       "212965200:7200 231285600:10800 244501200:7200 262735200:10800 275950800:7200",
       "452210400:10800 466722000:7200 483746400:10800 498258000:7200 515282400:10800",
       "529794000:7200 546818400:10800 561330000:7200 581119200:10800 592952400:7200",
       "610754400:10800 624488400:7200 641512800:10800 656024400:7200 673048800:10800",
       "687560400:7200 704671200:10800 718146000:7200 733269600:10800 748990800:7200",
       "764719200:10800 780440400:7200 796168800:10800 811890000:7200 828223200:10800",
       "843944400:7200 859672800:10800 875394000:7200 891122400:10800 906843600:7200"] },
  { name := "Asia/Bishkek", initial := 17904,
    rule := none,
    changes :=
      ["-1441169904:18000 -1247547600:21600 354909600:25200 370717200:21600 386445600:25200",
       "402253200:21600 417981600:25200 433789200:21600 449604000:25200 465336000:21600",
       "481060800:25200 496785600:21600 512510400:25200 528235200:21600 543960000:25200",
       "559684800:21600 575409600:25200 591134400:21600 606859200:25200 622584000:21600",
       "638308800:25200 654638400:21600 683582400:18000 703018800:21600 717530400:18000",
       "734468400:21600 748980000:18000 765918000:21600 780429600:18000 797367600:21600",
       "811879200:18000 828817200:21600 843933600:18000 859671000:21600 877811400:18000",
       "891120600:21600 909261000:18000 922570200:21600 941315400:18000 954019800:21600",
       "972765000:18000 985469400:21600 1004214600:18000 1017523800:21600 1035664200:18000",
       "1048973400:21600 1067113800:18000 1080423000:21600 1099168200:18000",
       "1111872600:21600"] },
  { name := "Asia/Chita", initial := 27232,
    rule := none,
    changes :=
      ["-1579419232:28800 -1247558400:32400 354898800:36000 370706400:32400 386434800:36000",
       "402242400:32400 417970800:36000 433778400:32400 449593200:36000 465325200:32400",
       "481050000:36000 496774800:32400 512499600:36000 528224400:32400 543949200:36000",
       "559674000:32400 575398800:36000 591123600:32400 606848400:36000 622573200:32400",
       "638298000:36000 654627600:32400 686080800:28800 695757600:32400 701802000:36000",
       "717526800:32400 733251600:36000 748976400:32400 764701200:36000 780426000:32400",
       "796150800:36000 811875600:32400 828205200:36000 846349200:32400 859654800:36000",
       "877798800:32400 891104400:36000 909248400:32400 922554000:36000 941302800:32400",
       "954003600:36000 972752400:32400 985453200:36000 1004202000:32400 1017507600:36000",
       "1035651600:32400 1048957200:36000 1067101200:32400 1080406800:36000",
       "1099155600:32400 1111856400:36000 1130605200:32400 1143306000:36000",
       "1162054800:32400 1174755600:36000 1193504400:32400 1206810000:36000",
       "1224954000:32400 1238259600:36000 1256403600:32400 1269709200:36000",
       "1288458000:32400 1301158800:36000 1414252800:28800 1459015200:32400"] },
  { name := "Asia/Colombo", initial := 19164,
    rule := none,
    changes :=
      ["-2840159964:19172 -2019705572:19800 -883287000:21600 -862639200:23400",
       "-764051400:19800 832962600:23400 846266400:21600 1145039400:19800"] },
  { name := "Asia/Damascus", initial := 8712,
    rule := none,
    changes :=
      ["-1577931912:7200 -1568592000:10800 -1554080400:7200 -1537142400:10800",
       "-1522630800:7200 -1505692800:10800 -1491181200:7200 -1474243200:10800",
       "-1459126800:7200 -242265600:10800 -228877200:7200 -210556800:10800 -197427600:7200",
       "-178934400:10800 -165718800:7200 -147398400:10800 -134269200:7200 -116467200:10800",
       "-102646800:7200 -84326400:10800 -71110800:7200 -52704000:10800 -39488400:7200",
       "-21168000:10800 -7952400:7200 10368000:10800 23583600:7200 41904000:10800",
       "55119600:7200 73526400:10800 86742000:7200 105062400:10800 118278000:7200",
       "136598400:10800 149814000:7200 168134400:10800 181350000:7200 199756800:10800",
       "212972400:7200 231292800:10800 241916400:7200 262828800:10800 273452400:7200",
       "418694400:10800 433810800:7200 450316800:10800 465433200:7200 508896000:10800",
       "529196400:7200 541555200:10800 562633200:7200 574387200:10800 594255600:7200",
       "607305600:10800 623199600:7200 638928000:10800 654649200:7200 670456800:10800",
       "686264400:7200 702684000:10800 717886800:7200 733096800:10800 748904400:7200",
       "765151200:10800 780958800:7200 796687200:10800 812494800:7200 828309600:10800",
       "844117200:7200 859759200:10800 875653200:7200 891208800:10800 907189200:7200",
       "922917600:10800 938725200:7200 954540000:10800 970347600:7200 986076000:10800",
       "1001883600:7200 1017612000:10800 1033419600:7200 1049148000:10800 1064955600:7200",
       "1080770400:10800 1096578000:7200 1112306400:10800 1128114000:7200 1143842400:10800",
       "1158872400:7200 1175205600:10800 1193950800:7200 1207260000:10800 1225486800:7200",
       "1238104800:10800 1256850000:7200 1270159200:10800 1288299600:7200 1301608800:10800",
       "1319749200:7200 1333058400:10800 1351198800:7200 1364508000:10800 1382648400:7200",
       "1395957600:10800 1414702800:7200 1427407200:10800 1446152400:7200 1458856800:10800",
       "1477602000:7200 1490911200:10800 1509051600:7200 1522360800:10800 1540501200:7200",
       "1553810400:10800 1571950800:7200 1585260000:10800 1604005200:7200 1616709600:10800",
       "1635454800:7200 1648159200:10800"] },
  { name := "Asia/Dhaka", initial := 21700,
    rule := none,
    changes :=
      ["-2524543300:21200 -891582800:23400 -872058600:19800 -862637400:23400",
       "-576138600:21600 1245430800:25200 1262278800:21600"] },
  { name := "Asia/Dili", initial := 30140,
    rule := none,
    changes :=
      ["-1830412800:28800 -879152400:32400 199897200:28800 969120000:32400"] },
  { name := "Asia/Dubai", initial := 13272,
    rule := none,
    changes :=
      ["-1577936472:14400"] },
  { name := "Asia/Dushanbe", initial := 16512,
    rule := none,
    changes :=
      ["-1441168512:18000 -1247547600:21600 354909600:25200 370717200:21600 386445600:25200",
       "402253200:21600 417981600:25200 433789200:21600 449604000:25200 465336000:21600",
       "481060800:25200 496785600:21600 512510400:25200 528235200:21600 543960000:25200",
       "559684800:21600 575409600:25200 591134400:21600 606859200:25200 622584000:21600",
       "638308800:25200 654638400:21600 684363600:18000"] },
  { name := "Asia/Famagusta", initial := 8148,
    rule := some ⟨2018, 7200, 10800, ⟨3, 5, 0, 10800⟩, ⟨10, 5, 0, 14400⟩⟩,
    changes :=
      ["-1518920148:7200 166572000:10800 182293200:7200 200959200:10800 213829200:7200",
       "228866400:10800 243982800:7200 260316000:10800 276123600:7200 291765600:10800",
       "307486800:7200 323820000:10800 338936400:7200 354664800:10800 370386000:7200",
       "386114400:10800 401835600:7200 417564000:10800 433285200:7200 449013600:10800",
       "465339600:7200 481068000:10800 496789200:7200 512517600:10800 528238800:7200",
       "543967200:10800 559688400:7200 575416800:10800 591138000:7200 606866400:10800",
       "622587600:7200 638316000:10800 654642000:7200 670370400:10800 686091600:7200",
       "701820000:10800 717541200:7200 733269600:10800 748990800:7200 764719200:10800",
       "780440400:7200 796168800:10800 811890000:7200 828223200:10800 843944400:7200",
       "859672800:10800 875394000:7200 891122400:10800 909277200:7200 922582800:10800",
       "941331600:7200 954032400:10800 972781200:7200 985482000:10800 1004230800:7200",
       "1017536400:10800 1035680400:7200 1048986000:10800 1067130000:7200 1080435600:10800",
       "1099184400:7200 1111885200:10800 1130634000:7200 1143334800:10800 1162083600:7200",
       "1174784400:10800 1193533200:7200 1206838800:10800 1224982800:7200 1238288400:10800",
       "1256432400:7200 1269738000:10800 1288486800:7200 1301187600:10800 1319936400:7200",
       "1332637200:10800 1351386000:7200 1364691600:10800 1382835600:7200 1396141200:10800",
       "1414285200:7200 1427590800:10800 1445734800:7200 1459040400:10800 1509238800:7200"] },
  { name := "Asia/Gaza", initial := 8272,
    rule := some ⟨2087, 7200, 10800, ⟨3, 4, 4, 180000⟩, ⟨10, 4, 4, 180000⟩⟩,
    changes :=
      ["-2185409872:7200 -933638400:10800 -923097600:7200 -919036800:10800 -857347200:7200",
       "-844300800:10800 -825811200:7200 -812678400:10800 -794188800:7200 -779846400:10800",
       "-762652800:7200 -748310400:10800 -731116800:7200 -399088800:10800 -386650800:7200",
       "-368330400:10800 -355114800:7200 -336790800:10800 -323654400:7200 -305168400:10800",
       "-292032000:7200 -273632400:10800 -260496000:7200 -242096400:10800 -228960000:7200",
       "-210560400:10800 -197424000:7200 -178938000:10800 -165801600:7200 -147402000:10800",
       "-134265600:7200 -115866000:10800 -102643200:7200 -84330000:10800 -81313200:7200",
       "142380000:10800 150843600:7200 167176800:10800 178664400:7200 334101600:10800",
       "337730400:7200 452642400:10800 462319200:7200 482277600:10800 494370000:7200",
       "516751200:10800 526424400:7200 545436000:10800 558478800:7200 576626400:10800",
       "589323600:7200 609890400:10800 620773200:7200 638316000:10800 651618000:7200",
       "669765600:10800 683672400:7200 701820000:10800 715726800:7200 733701600:10800",
       "747176400:7200 765151200:10800 778021200:7200 796600800:10800 810075600:7200",
       "828655200:10800 843170400:7200 860104800:10800 874620000:7200 891554400:10800",
       "906069600:7200 924213600:10800 939934800:7200 956268000:10800 971989200:7200",
       "987717600:10800 1003438800:7200 1019167200:10800 1034888400:7200 1050616800:10800",
       "1066338000:7200 1082066400:10800 1096581600:7200 1113516000:10800 1128380400:7200",
       "1143842400:10800 1158872400:7200 1175378400:10800 1189638000:7200 1206655200:10800",
       "1219957200:7200 1238104800:10800 1252015200:7200 1269640860:10800 1281474000:7200",
       "1301608860:10800 1312146000:7200 1333058400:10800 1348178400:7200 1364508000:10800",
       "1380229200:7200 1395957600:10800 1414098000:7200 1427493600:10800 1445551200:7200",
       "1458946800:10800 1477692000:7200 1490396400:10800 1509141600:7200 1521846000:10800",
       "1540591200:7200 1553810400:10800 1572037200:7200 1585346400:10800 1603490400:7200",
       "1616796000:10800 1635458400:7200 1648332000:10800 1666998000:7200 1682726400:10800",
       "1698447600:7200 1713571200:10800 1729897200:7200 1744416000:10800 1761346800:7200",
       "1774656000:10800 1792796400:7200 1806105600:10800 1824850800:7200 1837555200:10800",
       "1856300400:7200 1869004800:10800 1887750000:7200 1901059200:10800 1919199600:7200",
       "1932508800:10800 1950649200:7200 1963958400:10800 1982703600:7200 1995408000:10800",
       "2014153200:7200 2026857600:10800 2045602800:7200 2058307200:10800 2077052400:7200",
       "2090361600:10800 2107897200:7200 2121811200:10800 2138742000:7200 2153260800:10800",
       "2168982000:7200 2184710400:10800 2199826800:7200 2216160000:10800 2230066800:7200",
       "2234304000:10800 2234905200:7200 2248214400:10800 2260911600:7200 2264544000:10800",
       "2266354800:7200 2279664000:10800 2291756400:7200 2295388800:10800 2297804400:7200",
       "2311113600:10800 2321996400:7200 2326233600:10800 2329254000:7200 2342563200:10800",
       "2352841200:7200 2356473600:10800 2361308400:7200 2374012800:10800 2383686000:7200",
       "2387318400:10800 2392758000:7200 2405462400:10800 2413926000:7200 2418163200:10800",
       "2424207600:7200 2437516800:10800 2444770800:7200 2448403200:10800 2455657200:7200",
       "2468966400:10800 2475010800:7200 2479248000:10800 2487106800:7200 2500416000:10800",
       "2505855600:7200 2509488000:10800 2519161200:7200 2531865600:10800 2536700400:7200",
       "2540332800:10800 2550610800:7200 2563315200:10800 2566940400:7200 2571177600:10800",
       "2582060400:7200 2595369600:10800 2597785200:7200 2601417600:10800 2613510000:7200",
       "2626819200:10800 2628025200:7200 2632262400:10800 2644959600:7200 2658268800:10800",
       "2658870000:7200 2663107200:10800 2676409200:7200 2693347200:10800 2708463600:7200",
       "2724192000:10800 2739913200:7200 2754432000:10800 2771362800:7200 2785276800:10800",
       "2802812400:7200 2816121600:10800 2834262000:7200 2847571200:10800 2866316400:7200",
       "2879020800:10800 2897766000:7200 2910470400:10800 2929215600:7200 2941920000:10800",
       "2960665200:7200 2973974400:10800 2992114800:7200 3005424000:10800 3023564400:7200",
       "3036873600:10800 3055618800:7200 3068323200:10800 3087068400:7200 3099772800:10800",
       "3117913200:7200 3131827200:10800 3148758000:7200 3163276800:10800 3179602800:7200",
       "3194726400:10800 3209842800:7200 3226176000:10800 3240687600:7200 3244320000:10800",
       "3244921200:7200 3257625600:10800 3271532400:7200 3275164800:10800 3276370800:7200",
       "3289075200:10800 3301772400:7200 3306009600:10800 3307820400:7200 3321129600:10800",
       "3332617200:7200 3336249600:10800 3339270000:7200 3352579200:10800 3362857200:7200",
       "3367094400:10800 3370719600:7200 3384028800:10800 3393702000:7200 3397939200:10800",
       "3402774000:7200 3415478400:10800 3424546800:7200 3428179200:10800 3434223600:7200",
       "3446928000:10800 3454786800:7200 3459024000:10800 3465673200:7200 3478982400:10800",
       "3485631600:7200 3489264000:10800 3497122800:7200 3510432000:10800 3516476400:7200",
       "3520108800:10800 3528572400:7200 3541881600:10800 3546716400:7200 3550953600:10800",
       "3560022000:7200 3573331200:10800 3577561200:7200 3581193600:10800 3592076400:7200",
       "3604780800:10800 3607801200:7200 3612038400:10800 3623526000:7200 3636230400:10800",
       "3638646000:7200 3642883200:10800 3654975600:7200 3668284800:10800 3669490800:7200",
       "3673123200:10800 3686425200:7200"] },
  { name := "Asia/Hebron", initial := 8423,
    rule := some ⟨2087, 7200, 10800, ⟨3, 4, 4, 180000⟩, ⟨10, 4, 4, 180000⟩⟩,
    changes :=
      ["-2185410023:7200 -933638400:10800 -923097600:7200 -919036800:10800 -857347200:7200",
       "-844300800:10800 -825811200:7200 -812678400:10800 -794188800:7200 -779846400:10800",
       "-762652800:7200 -748310400:10800 -731116800:7200 -399088800:10800 -386650800:7200",
       "-368330400:10800 -355114800:7200 -336790800:10800 -323654400:7200 -305168400:10800",
       "-292032000:7200 -273632400:10800 -260496000:7200 -242096400:10800 -228960000:7200",
       "-210560400:10800 -197424000:7200 -178938000:10800 -165801600:7200 -147402000:10800",
       "-134265600:7200 -115866000:10800 -102643200:7200 -84330000:10800 -81313200:7200",
       "142380000:10800 150843600:7200 167176800:10800 178664400:7200 334101600:10800",
       "337730400:7200 452642400:10800 462319200:7200 482277600:10800 494370000:7200",
       "516751200:10800 526424400:7200 545436000:10800 558478800:7200 576626400:10800",
       "589323600:7200 609890400:10800 620773200:7200 638316000:10800 651618000:7200",
       "669765600:10800 683672400:7200 701820000:10800 715726800:7200 733701600:10800",
       "747176400:7200 765151200:10800 778021200:7200 796600800:10800 810075600:7200",
       "828655200:10800 843170400:7200 860104800:10800 874620000:7200 891554400:10800",
       "906069600:7200 924213600:10800 939934800:7200 956268000:10800 971989200:7200",
       "987717600:10800 1003438800:7200 1019167200:10800 1034888400:7200 1050616800:10800",
       "1066338000:7200 1082066400:10800 1096581600:7200 1113516000:10800 1128380400:7200",
       "1143842400:10800 1158872400:7200 1175378400:10800 1189638000:7200 1206655200:10800",
       "1220216400:7200 1238104800:10800 1252015200:7200 1269554400:10800 1281474000:7200",
       "1301608860:10800 1312146000:7200 1314655200:10800 1317330000:7200 1333058400:10800",
       "1348178400:7200 1364508000:10800 1380229200:7200 1395957600:10800 1414098000:7200",
       "1427493600:10800 1445551200:7200 1458946800:10800 1477692000:7200 1490396400:10800",
       "1509141600:7200 1521846000:10800 1540591200:7200 1553810400:10800 1572037200:7200",
       "1585346400:10800 1603490400:7200 1616796000:10800 1635458400:7200 1648332000:10800",
       "1666998000:7200 1682726400:10800 1698447600:7200 1713571200:10800 1729897200:7200",
       "1744416000:10800 1761346800:7200 1774656000:10800 1792796400:7200 1806105600:10800",
       "1824850800:7200 1837555200:10800 1856300400:7200 1869004800:10800 1887750000:7200",
       "1901059200:10800 1919199600:7200 1932508800:10800 1950649200:7200 1963958400:10800",
       "1982703600:7200 1995408000:10800 2014153200:7200 2026857600:10800 2045602800:7200",
       "2058307200:10800 2077052400:7200 2090361600:10800 2107897200:7200 2121811200:10800",
       "2138742000:7200 2153260800:10800 2168982000:7200 2184710400:10800 2199826800:7200",
       "2216160000:10800 2230066800:7200 2234304000:10800 2234905200:7200 2248214400:10800",
       "2260911600:7200 2264544000:10800 2266354800:7200 2279664000:10800 2291756400:7200",
       "2295388800:10800 2297804400:7200 2311113600:10800 2321996400:7200 2326233600:10800",
       "2329254000:7200 2342563200:10800 2352841200:7200 2356473600:10800 2361308400:7200",
       "2374012800:10800 2383686000:7200 2387318400:10800 2392758000:7200 2405462400:10800",
       "2413926000:7200 2418163200:10800 2424207600:7200 2437516800:10800 2444770800:7200",
       "2448403200:10800 2455657200:7200 2468966400:10800 2475010800:7200 2479248000:10800",
       "2487106800:7200 2500416000:10800 2505855600:7200 2509488000:10800 2519161200:7200",
       "2531865600:10800 2536700400:7200 2540332800:10800 2550610800:7200 2563315200:10800",
       "2566940400:7200 2571177600:10800 2582060400:7200 2595369600:10800 2597785200:7200",
       "2601417600:10800 2613510000:7200 2626819200:10800 2628025200:7200 2632262400:10800",
       "2644959600:7200 2658268800:10800 2658870000:7200 2663107200:10800 2676409200:7200",
       "2693347200:10800 2708463600:7200 2724192000:10800 2739913200:7200 2754432000:10800",
       "2771362800:7200 2785276800:10800 2802812400:7200 2816121600:10800 2834262000:7200",
       "2847571200:10800 2866316400:7200 2879020800:10800 2897766000:7200 2910470400:10800",
       "2929215600:7200 2941920000:10800 2960665200:7200 2973974400:10800 2992114800:7200",
       "3005424000:10800 3023564400:7200 3036873600:10800 3055618800:7200 3068323200:10800",
       "3087068400:7200 3099772800:10800 3117913200:7200 3131827200:10800 3148758000:7200",
       "3163276800:10800 3179602800:7200 3194726400:10800 3209842800:7200 3226176000:10800",
       "3240687600:7200 3244320000:10800 3244921200:7200 3257625600:10800 3271532400:7200",
       "3275164800:10800 3276370800:7200 3289075200:10800 3301772400:7200 3306009600:10800",
       "3307820400:7200 3321129600:10800 3332617200:7200 3336249600:10800 3339270000:7200",
       "3352579200:10800 3362857200:7200 3367094400:10800 3370719600:7200 3384028800:10800",
       "3393702000:7200 3397939200:10800 3402774000:7200 3415478400:10800 3424546800:7200",
       "3428179200:10800 3434223600:7200 3446928000:10800 3454786800:7200 3459024000:10800",
       "3465673200:7200 3478982400:10800 3485631600:7200 3489264000:10800 3497122800:7200",
       "3510432000:10800 3516476400:7200 3520108800:10800 3528572400:7200 3541881600:10800",
       "3546716400:7200 3550953600:10800 3560022000:7200 3573331200:10800 3577561200:7200",
       "3581193600:10800 3592076400:7200 3604780800:10800 3607801200:7200 3612038400:10800",
       "3623526000:7200 3636230400:10800 3638646000:7200 3642883200:10800 3654975600:7200",
       "3668284800:10800 3669490800:7200 3673123200:10800 3686425200:7200"] },
  { name := "Asia/Ho_Chi_Minh", initial := 25590,
    rule := none,
    changes :=
      ["-1851577590:25200 -852105600:28800 -782643600:32400 -767869200:25200",
       "-718095600:28800 -457772400:25200 -315648000:28800 171820800:25200"] },
  { name := "Asia/Hong_Kong", initial := 27402,
    rule := none,
    changes :=
      ["-2056690800:28800 -900910800:32400 -891579600:30600 -884248200:32400",
       "-761209200:28800 -747907200:32400 -728541000:28800 -717049800:32400",
       "-697091400:28800 -683785800:32400 -668061000:28800 -654755400:32400",
       "-636611400:28800 -623305800:32400 -605161800:28800 -591856200:32400",
       "-573712200:28800 -559801800:32400 -541657800:28800 -528352200:32400",
       "-510211800:28800 -498112200:32400 -478762200:28800 -466662600:32400",
       "-446707800:28800 -435213000:32400 -415258200:28800 -403158600:32400",
       "-383808600:28800 -371709000:32400 -352359000:28800 -340259400:32400",
       "-320909400:28800 -308809800:32400 -288855000:28800 -277360200:32400",
       "-257405400:28800 -245910600:32400 -225955800:28800 -213856200:32400",
       "-194506200:28800 -182406600:32400 -163056600:28800 -148537800:32400",
       "-132816600:28800 -117088200:32400 -101367000:28800 -85638600:32400 -69312600:28800",
       "-53584200:32400 -37863000:28800 -22134600:32400 -6413400:28800 9315000:32400",
       "25036200:28800 40764600:32400 56485800:28800 72214200:32400 88540200:28800",
       "104268600:32400 119989800:28800 126041400:32400 151439400:28800 167167800:32400",
       "182889000:28800 198617400:32400 214338600:28800 295385400:32400 309292200:28800"] },
  { name := "Asia/Hovd", initial := 21996,
    rule := none,
    changes :=
      ["-2032927596:21600 252439200:25200 417978000:28800 433785600:25200 449600400:28800",
       "465321600:25200 481050000:28800 496771200:25200 512499600:28800 528220800:25200",
       "543949200:28800 559670400:25200 575398800:28800 591120000:25200 606848400:28800",
       "622569600:25200 638298000:28800 654624000:25200 670352400:28800 686073600:25200",
       "701802000:28800 717523200:25200 733251600:28800 748972800:25200 764701200:28800",
       "780422400:25200 796150800:28800 811872000:25200 828205200:28800 843926400:25200",
       "859654800:28800 875376000:25200 891104400:28800 906825600:25200 988398000:28800",
       "1001700000:25200 1017428400:28800 1033149600:25200 1048878000:28800",
       "1064599200:25200 1080327600:28800 1096048800:25200 1111777200:28800",
       "1127498400:25200 1143226800:28800 1159552800:25200 1427482800:28800",
       "1443196800:25200 1458932400:28800 1474646400:25200"] },
  { name := "Asia/Irkutsk", initial := 25025,
    rule := none,
    changes :=
      ["-1575874625:25200 -1247554800:28800 354902400:32400 370710000:28800 386438400:32400",
       "402246000:28800 417974400:32400 433782000:28800 449596800:32400 465328800:28800",
       "481053600:32400 496778400:28800 512503200:32400 528228000:28800 543952800:32400",
       "559677600:28800 575402400:32400 591127200:28800 606852000:32400 622576800:28800",
       "638301600:32400 654631200:28800 686084400:25200 695761200:28800 701805600:32400",
       "717530400:28800 733255200:32400 748980000:28800 764704800:32400 780429600:28800",
       "796154400:32400 811879200:28800 828208800:32400 846352800:28800 859658400:32400",
       "877802400:28800 891108000:32400 909252000:28800 922557600:32400 941306400:28800",
       "954007200:32400 972756000:28800 985456800:32400 1004205600:28800 1017511200:32400",
       "1035655200:28800 1048960800:32400 1067104800:28800 1080410400:32400",
       "1099159200:28800 1111860000:32400 1130608800:28800 1143309600:32400",
       "1162058400:28800 1174759200:32400 1193508000:28800 1206813600:32400",
       "1224957600:28800 1238263200:32400 1256407200:28800 1269712800:32400",
       "1288461600:28800 1301162400:32400 1414256400:28800"] },
  { name := "Asia/Jakarta", initial := 25632,
    rule := none,
    changes :=
      ["-1451719200:26400 -1172906400:27000 -876641400:32400 -766054800:27000",
       "-683883000:28800 -620812800:27000 -189415800:25200"] },
  { name := "Asia/Jayapura", initial := 33768,
    rule := none,
    changes :=
      ["-1172913768:32400 -799491600:34200 -189423000:32400"] },
  { name := "Asia/Jerusalem", initial := 8454,
    rule := some ⟨2013, 7200, 10800, ⟨3, 4, 4, 93600⟩, ⟨10, 5, 0, 7200⟩⟩,
    changes :=
      ["-2840149254:8440 -1641003640:7200 -933638400:10800 -923097600:7200 -919036800:10800",
       "-857347200:7200 -844300800:10800 -825811200:7200 -812678400:10800 -794188800:7200",
       "-779846400:10800 -762652800:7200 -748310400:10800 -731116800:7200 -681955200:14400",
       "-673228800:10800 -667958400:7200 -652320000:10800 -636422400:7200 -622080000:10800",
       "-608947200:7200 -591840000:10800 -572486400:7200 -558576000:10800 -542851200:7200",
       "-527731200:10800 -514425600:7200 -490838400:10800 -482976000:7200 -459388800:10800",
       "-451526400:7200 -428544000:10800 -418262400:7200 -400118400:10800 -387417600:7200",
       "142380000:10800 150843600:7200 167176800:10800 178664400:7200 334101600:10800",
       "337730400:7200 452642400:10800 462319200:7200 482277600:10800 494370000:7200",
       "516751200:10800 526424400:7200 545436000:10800 558478800:7200 576626400:10800",
       "589323600:7200 609890400:10800 620773200:7200 638316000:10800 651618000:7200",
       "669765600:10800 683672400:7200 701820000:10800 715726800:7200 733701600:10800",
       "747176400:7200 765151200:10800 778021200:7200 796600800:10800 810075600:7200",
       "826840800:10800 842821200:7200 858895200:10800 874184400:7200 890344800:10800",
       "905029200:7200 923011200:10800 936313200:7200 955670400:10800 970783200:7200",
       "986770800:10800 1001282400:7200 1017356400:10800 1033941600:7200 1048806000:10800",
       "1065132000:7200 1081292400:10800 1095804000:7200 1112313600:10800 1128812400:7200",
       "1143763200:10800 1159657200:7200 1175212800:10800 1189897200:7200 1206662400:10800",
       "1223161200:7200 1238112000:10800 1254006000:7200 1269561600:10800 1284246000:7200",
       "1301616000:10800 1317510000:7200 1333065600:10800 1348354800:7200"] },
  { name := "Asia/Kabul", initial := 16608,
    rule := none,
    changes :=
      ["-2524538208:14400 -788932800:16200"] },
  { name := "Asia/Kamchatka", initial := 38076,
    rule := none,
    changes :=
      ["-1487759676:39600 -1247569200:43200 354888000:46800 370695600:43200 386424000:46800",
       "402231600:43200 417960000:46800 433767600:43200 449582400:46800 465314400:43200",
       "481039200:46800 496764000:43200 512488800:46800 528213600:43200 543938400:46800",
       "559663200:43200 575388000:46800 591112800:43200 606837600:46800 622562400:43200",
       "638287200:46800 654616800:43200 686070000:39600 695746800:43200 701791200:46800",
       "717516000:43200 733240800:46800 748965600:43200 764690400:46800 780415200:43200",
       "796140000:46800 811864800:43200 828194400:46800 846338400:43200 859644000:46800",
       "877788000:43200 891093600:46800 909237600:43200 922543200:46800 941292000:43200",
       "953992800:46800 972741600:43200 985442400:46800 1004191200:43200 1017496800:46800",
       "1035640800:43200 1048946400:46800 1067090400:43200 1080396000:46800",
       "1099144800:43200 1111845600:46800 1130594400:43200 1143295200:46800",
       "1162044000:43200 1174744800:46800 1193493600:43200 1206799200:46800",
       "1224943200:43200 1238248800:46800 1256392800:43200 1288450800:39600",
       "1301151600:43200"] },
  { name := "Asia/Karachi", initial := 16092,
    rule := none,
    changes :=
      ["-1988166492:19800 -862637400:23400 -764145000:19800 -576135000:18000",
       "1018119600:21600 1033840800:18000 1212260400:21600 1225476000:18000",
       "1239735600:21600 1257012000:18000"] },
  { name := "Asia/Kathmandu", initial := 20476,
    rule := none,
    changes :=
      ["-1577943676:19800 504901800:20700"] },
  { name := "Asia/Khandyga", initial := 32533,
    rule := none,
    changes :=
      ["-1579424533:28800 -1247558400:32400 354898800:36000 370706400:32400 386434800:36000",
       "402242400:32400 417970800:36000 433778400:32400 449593200:36000 465325200:32400",
       "481050000:36000 496774800:32400 512499600:36000 528224400:32400 543949200:36000",
       "559674000:32400 575398800:36000 591123600:32400 606848400:36000 622573200:32400",
       "638298000:36000 654627600:32400 686080800:28800 695757600:32400 701802000:36000",
       "717526800:32400 733251600:36000 748976400:32400 764701200:36000 780426000:32400",
       "796150800:36000 811875600:32400 828205200:36000 846349200:32400 859654800:36000",
       "877798800:32400 891104400:36000 909248400:32400 922554000:36000 941302800:32400",
       "954003600:36000 972752400:32400 985453200:36000 1004202000:32400 1017507600:36000",
       "1035651600:32400 1048957200:36000 1067101200:32400 1072882800:36000",
       "1080403200:39600 1099152000:36000 1111852800:39600 1130601600:36000",
       "1143302400:39600 1162051200:36000 1174752000:39600 1193500800:36000",
       "1206806400:39600 1224950400:36000 1238256000:39600 1256400000:36000",
       "1269705600:39600 1288454400:36000 1301155200:39600 1315832400:36000",
       "1414252800:32400"] },
  { name := "Asia/Kolkata", initial := 21208,
    rule := none,
    changes :=
      ["-3645237208:21200 -3155694800:19270 -2019705670:19800 -891581400:23400",
       "-872058600:19800 -862637400:23400 -764145000:19800"] },
  { name := "Asia/Krasnoyarsk", initial := 22286,
    rule := none,
    changes :=
      ["-1577513486:21600 -1247551200:25200 354906000:28800 370713600:25200 386442000:28800",
       "402249600:25200 417978000:28800 433785600:25200 449600400:28800 465332400:25200",
       "481057200:28800 496782000:25200 512506800:28800 528231600:25200 543956400:28800",
       "559681200:25200 575406000:28800 591130800:25200 606855600:28800 622580400:25200",
       "638305200:28800 654634800:25200 686088000:21600 695764800:25200 701809200:28800",
       "717534000:25200 733258800:28800 748983600:25200 764708400:28800 780433200:25200",
       "796158000:28800 811882800:25200 828212400:28800 846356400:25200 859662000:28800",
       "877806000:25200 891111600:28800 909255600:25200 922561200:28800 941310000:25200",
       "954010800:28800 972759600:25200 985460400:28800 1004209200:25200 1017514800:28800",
       "1035658800:25200 1048964400:28800 1067108400:25200 1080414000:28800",
       "1099162800:25200 1111863600:28800 1130612400:25200 1143313200:28800",
       "1162062000:25200 1174762800:28800 1193511600:25200 1206817200:28800",
       "1224961200:25200 1238266800:28800 1256410800:25200 1269716400:28800",
       "1288465200:25200 1301166000:28800 1414260000:25200"] },
  { name := "Asia/Kuching", initial := 26480,
    rule := none,
    changes :=
      ["-1383463280:27000 -1167636600:28800 -1082448000:30000 -1074586800:28800",
       "-1050825600:30000 -1042964400:28800 -1019289600:30000 -1011428400:28800",
       "-987753600:30000 -979892400:28800 -956217600:30000 -948356400:28800",
       "-924595200:30000 -916734000:28800 -893059200:30000 -885198000:28800",
       "-879667200:32400 -767005200:28800"] },
  { name := "Asia/Macau", initial := 27250,
    rule := none,
    changes :=
      ["-2056692850:28800 -884509200:32400 -873280800:36000 -855918000:32400",
       "-841744800:36000 -828529200:32400 -765363600:28800 -747046800:32400",
       "-733827600:28800 -716461200:32400 -697021200:28800 -683715600:32400",
       "-667990800:28800 -654771600:32400 -636627600:28800 -623322000:32400",
       "-605178000:28800 -591872400:32400 -573642000:28800 -559818000:32400",
       "-541674000:28800 -528368400:32400 -510224400:28800 -498128400:32400",
       "-478774800:28800 -466678800:32400 -446720400:28800 -435229200:32400",
       "-415258200:28800 -403158600:32400 -383808600:28800 -371709000:32400",
       "-352359000:28800 -340259400:32400 -320909400:28800 -308809800:32400",
       "-288855000:28800 -277360200:32400 -257405400:28800 -245910600:32400",
       "-225955800:28800 -213856200:32400 -194506200:28800 -182406600:32400",
       "-163056600:28800 -148537800:32400 -132820200:28800 -117088200:32400",
       "-101370600:28800 -85638600:32400 -69312600:28800 -53584200:32400 -37863000:28800",
       "-22134600:32400 -6413400:28800 9315000:32400 25036200:28800 40764600:32400",
       "56485800:28800 72214200:32400 88540200:28800 104268600:32400 119989800:28800",
       "126041400:32400 151439400:28800 167167800:32400 182889000:28800 198617400:32400",
       "214338600:28800 295385400:32400 309292200:28800"] },
  { name := "Asia/Magadan", initial := 36192,
    rule := none,
    changes :=
      ["-1441188192:36000 -1247565600:39600 354891600:43200 370699200:39600 386427600:43200",
       "402235200:39600 417963600:43200 433771200:39600 449586000:43200 465318000:39600",
       "481042800:43200 496767600:39600 512492400:43200 528217200:39600 543942000:43200",
       "559666800:39600 575391600:43200 591116400:39600 606841200:43200 622566000:39600",
       "638290800:43200 654620400:39600 686073600:36000 695750400:39600 701794800:43200",
       "717519600:39600 733244400:43200 748969200:39600 764694000:43200 780418800:39600",
       "796143600:43200 811868400:39600 828198000:43200 846342000:39600 859647600:43200",
       "877791600:39600 891097200:43200 909241200:39600 922546800:43200 941295600:39600",
       "953996400:43200 972745200:39600 985446000:43200 1004194800:39600 1017500400:43200",
       "1035644400:39600 1048950000:43200 1067094000:39600 1080399600:43200",
       "1099148400:39600 1111849200:43200 1130598000:39600 1143298800:43200",
       "1162047600:39600 1174748400:43200 1193497200:39600 1206802800:43200",
       "1224946800:39600 1238252400:43200 1256396400:39600 1269702000:43200",
       "1288450800:39600 1301151600:43200 1414245600:36000 1461427200:39600"] },
  { name := "Asia/Makassar", initial := 28656,
    rule := none,
    changes :=
      ["-1172908656:28800 -880272000:32400 -766054800:28800"] },
  { name := "Asia/Manila", initial := -57368,
    rule := none,
    changes :=
      ["-3944621032:29032 -2219083200:28800 -1046678400:32400 -1040115600:28800",
       "-885024000:32400 -760093200:28800 -496224000:32400 -491562000:28800 228326400:32400",
       "243702000:28800 643219200:32400 649177200:28800"] },
  { name := "Asia/Nicosia", initial := 8008,
    rule := some ⟨1999, 7200, 10800, ⟨3, 5, 0, 10800⟩, ⟨10, 5, 0, 14400⟩⟩,
    changes :=
      ["-1518920008:7200 166572000:10800 182293200:7200 200959200:10800 213829200:7200",
       "228866400:10800 243982800:7200 260316000:10800 276123600:7200 291765600:10800",
       "307486800:7200 323820000:10800 338936400:7200 354664800:10800 370386000:7200",
       "386114400:10800 401835600:7200 417564000:10800 433285200:7200 449013600:10800",
       "465339600:7200 481068000:10800 496789200:7200 512517600:10800 528238800:7200",
       "543967200:10800 559688400:7200 575416800:10800 591138000:7200 606866400:10800",
       "622587600:7200 638316000:10800 654642000:7200 670370400:10800 686091600:7200",
       "701820000:10800 717541200:7200 733269600:10800 748990800:7200 764719200:10800",
       "780440400:7200 796168800:10800 811890000:7200 828223200:10800 843944400:7200",
       "859672800:10800 875394000:7200 891122400:10800 909277200:7200"] },
  { name := "Asia/Novokuznetsk", initial := 20928,
    rule := none,
    changes :=
      ["-1441259328:21600 -1247551200:25200 354906000:28800 370713600:25200 386442000:28800",
       "402249600:25200 417978000:28800 433785600:25200 449600400:28800 465332400:25200",
       "481057200:28800 496782000:25200 512506800:28800 528231600:25200 543956400:28800",
       "559681200:25200 575406000:28800 591130800:25200 606855600:28800 622580400:25200",
       "638305200:28800 654634800:25200 686088000:21600 695764800:25200 701809200:28800",
       "717534000:25200 733258800:28800 748983600:25200 764708400:28800 780433200:25200",
       "796158000:28800 811882800:25200 828212400:28800 846356400:25200 859662000:28800",
       "877806000:25200 891111600:28800 909255600:25200 922561200:28800 941310000:25200",
       "954010800:28800 972759600:25200 985460400:28800 1004209200:25200 1017514800:28800",
       "1035658800:25200 1048964400:28800 1067108400:25200 1080414000:28800",
       "1099162800:25200 1111863600:28800 1130612400:25200 1143313200:28800",
       "1162062000:25200 1174762800:28800 1193511600:25200 1206817200:28800",
       "1224961200:25200 1238266800:28800 1256410800:25200 1288468800:21600",
       "1301169600:25200"] },
  { name := "Asia/Novosibirsk", initial := 19900,
    rule := none,
    changes :=
      ["-1579476700:21600 -1247551200:25200 354906000:28800 370713600:25200 386442000:28800",
       "402249600:25200 417978000:28800 433785600:25200 449600400:28800 465332400:25200",
       "481057200:28800 496782000:25200 512506800:28800 528231600:25200 543956400:28800",
       "559681200:25200 575406000:28800 591130800:25200 606855600:28800 622580400:25200",
       "638305200:28800 654634800:25200 686088000:21600 695764800:25200 701809200:28800",
       "717534000:25200 733258800:28800 738086400:25200 748987200:21600 764712000:25200",
       "780436800:21600 796161600:25200 811886400:21600 828216000:25200 846360000:21600",
       "859665600:25200 877809600:21600 891115200:25200 909259200:21600 922564800:25200",
       "941313600:21600 954014400:25200 972763200:21600 985464000:25200 1004212800:21600",
       "1017518400:25200 1035662400:21600 1048968000:25200 1067112000:21600",
       "1080417600:25200 1099166400:21600 1111867200:25200 1130616000:21600",
       "1143316800:25200 1162065600:21600 1174766400:25200 1193515200:21600",
       "1206820800:25200 1224964800:21600 1238270400:25200 1256414400:21600",
       "1269720000:25200 1288468800:21600 1301169600:25200 1414263600:21600",
       "1469304000:25200"] },
  { name := "Asia/Omsk", initial := 17610,
    rule := none,
    changes :=
      ["-1582088010:18000 -1247547600:21600 354909600:25200 370717200:21600 386445600:25200",
       "402253200:21600 417981600:25200 433789200:21600 449604000:25200 465336000:21600",
       "481060800:25200 496785600:21600 512510400:25200 528235200:21600 543960000:25200",
       "559684800:21600 575409600:25200 591134400:21600 606859200:25200 622584000:21600",
       "638308800:25200 654638400:21600 686091600:18000 695768400:21600 701812800:25200",
       "717537600:21600 733262400:25200 748987200:21600 764712000:25200 780436800:21600",
       "796161600:25200 811886400:21600 828216000:25200 846360000:21600 859665600:25200",
       "877809600:21600 891115200:25200 909259200:21600 922564800:25200 941313600:21600",
       "954014400:25200 972763200:21600 985464000:25200 1004212800:21600 1017518400:25200",
       "1035662400:21600 1048968000:25200 1067112000:21600 1080417600:25200",
       "1099166400:21600 1111867200:25200 1130616000:21600 1143316800:25200",
       "1162065600:21600 1174766400:25200 1193515200:21600 1206820800:25200",
       "1224964800:21600 1238270400:25200 1256414400:21600 1269720000:25200",
       "1288468800:21600 1301169600:25200 1414263600:21600"] },
  { name := "Asia/Oral", initial := 12324,
    rule := none,
    changes :=
      ["-1441164324:10800 -1247540400:18000 354913200:21600 402256800:18000 417985200:21600",
       "433792800:18000 449607600:21600 465339600:18000 481064400:21600 496789200:18000",
       "512514000:21600 528238800:18000 543963600:21600 559688400:18000 575413200:21600",
       "591138000:18000 622591200:14400 638316000:18000 654645600:14400 670370400:18000",
       "686095200:14400 695772000:18000 717544800:14400 733269600:18000 748994400:14400",
       "764719200:18000 780444000:14400 796168800:18000 811893600:14400 828223200:18000",
       "846367200:14400 859672800:18000 877816800:14400 891122400:18000 909266400:14400",
       "922572000:18000 941320800:14400 954021600:18000 972770400:14400 985471200:18000",
       "1004220000:14400 1017525600:18000 1035669600:14400 1048975200:18000",
       "1067119200:14400 1080424800:18000"] },
  { name := "Asia/Pontianak", initial := 26240,
    rule := none,
    changes :=
      ["-1172906240:27000 -881220600:32400 -766054800:27000 -683883000:28800",
       "-620812800:27000 -189415800:28800 567964800:25200"] },
  { name := "Asia/Pyongyang", initial := 30180,
    rule := none,
    changes :=
      ["-1948782180:30600 -1830414600:32400 1439564400:30600 1525446000:32400"] },
  { name := "Asia/Qatar", initial := 12368,
    rule := none,
    changes :=
      ["-1577935568:14400 76190400:10800"] },
  { name := "Asia/Qostanay", initial := 15268,
    rule := none,
    changes :=
      ["-1441167268:14400 -1247544000:18000 354913200:21600 402256800:18000 417985200:21600",
       "433792800:18000 449607600:21600 465339600:18000 481064400:21600 496789200:18000",
       "512514000:21600 528238800:18000 543963600:21600 559688400:18000 575413200:21600",
       "591138000:18000 606862800:21600 622587600:18000 638312400:21600 654642000:18000",
       "686095200:14400 695772000:18000 701816400:21600 717541200:18000 733266000:21600",
       "748990800:18000 764715600:21600 780440400:18000 796165200:21600 811890000:18000",
       "828219600:21600 846363600:18000 859669200:21600 877813200:18000 891118800:21600",
       "909262800:18000 922568400:21600 941317200:18000 954018000:21600 972766800:18000",
       "985467600:21600 1004216400:18000 1017522000:21600 1035666000:18000 1048971600:21600",
       "1067115600:18000 1080421200:21600 1709229600:18000"] },
  { name := "Asia/Qyzylorda", initial := 15712,
    rule := none,
    changes :=
      ["-1441167712:14400 -1247544000:18000 354913200:21600 402256800:18000 417985200:21600",
       "433792800:18000 449607600:21600 465339600:18000 481064400:21600 496789200:18000",
       "512514000:21600 528238800:18000 543963600:21600 559688400:18000 575413200:21600",
       "591138000:18000 606862800:21600 622587600:18000 638312400:21600 654642000:18000",
       "695768400:21600 717541200:18000 733266000:21600 748990800:18000 764715600:21600",
       "780440400:18000 796165200:21600 811890000:18000 828219600:21600 846363600:18000",
       "859669200:21600 877813200:18000 891118800:21600 909262800:18000 922568400:21600",
       "941317200:18000 954018000:21600 972766800:18000 985467600:21600 1004216400:18000",
       "1017522000:21600 1035666000:18000 1048971600:21600 1067115600:18000",
       "1080421200:21600 1545328800:18000"] },
  { name := "Asia/Riyadh", initial := 11212,
    rule := none,
    changes :=
      ["-719636812:10800"] },
  { name := "Asia/Sakhalin", initial := 34248,
    rule := none,
    changes :=
      ["-2031039048:32400 -768560400:39600 354891600:43200 370699200:39600 386427600:43200",
       "402235200:39600 417963600:43200 433771200:39600 449586000:43200 465318000:39600",
       "481042800:43200 496767600:39600 512492400:43200 528217200:39600 543942000:43200",
       "559666800:39600 575391600:43200 591116400:39600 606841200:43200 622566000:39600",
       "638290800:43200 654620400:39600 686073600:36000 695750400:39600 701794800:43200",
       "717519600:39600 733244400:43200 748969200:39600 764694000:43200 780418800:39600",
       "796143600:43200 811868400:39600 828198000:43200 846342000:39600 877795200:36000",
       "891100800:39600 909244800:36000 922550400:39600 941299200:36000 954000000:39600",
       "972748800:36000 985449600:39600 1004198400:36000 1017504000:39600 1035648000:36000",
       "1048953600:39600 1067097600:36000 1080403200:39600 1099152000:36000",
       "1111852800:39600 1130601600:36000 1143302400:39600 1162051200:36000",
       "1174752000:39600 1193500800:36000 1206806400:39600 1224950400:36000",
       "1238256000:39600 1256400000:36000 1269705600:39600 1288454400:36000",
       "1301155200:39600 1414249200:36000 1459008000:39600"] },
  { name := "Asia/Samarkand", initial := 16073,
    rule := none,
    changes :=
      ["-1441168073:14400 -1247544000:18000 354913200:21600 402256800:18000 417985200:21600",
       "433792800:18000 449607600:21600 465339600:18000 481064400:21600 496789200:18000",
       "512514000:21600 528238800:18000 543963600:21600 559688400:18000 575413200:21600",
       "591138000:18000 606862800:21600 622587600:18000 638312400:21600 654642000:18000",
       "670366800:21600 686091600:18000"] },
  { name := "Asia/Seoul", initial := 30472,
    rule := none,
    changes :=
      ["-1948782472:30600 -1830414600:32400 -681210000:36000 -672228000:32400",
       "-654771600:36000 -640864800:32400 -623408400:36000 -609415200:32400",
       "-588848400:36000 -577965600:32400 -498128400:30600 -462702600:34200",
       "-451733400:30600 -429784200:34200 -418296600:30600 -399544200:34200",
       "-387451800:30600 -368094600:34200 -356002200:30600 -336645000:34200",
       "-324552600:30600 -305195400:34200 -293103000:30600 -264933000:32400 547578000:36000",
       "560883600:32400 579027600:36000 592333200:32400"] },
  { name := "Asia/Shanghai", initial := 29143,
    rule := none,
    changes :=
      ["-2177481943:28800 -1600675200:32400 -1585904400:28800 -933667200:32400",
       "-922093200:28800 -908870400:32400 -888829200:28800 -881049600:32400",
       "-767869200:28800 -745833600:32400 -733827600:28800 -716889600:32400",
       "-699613200:28800 -683884800:32400 -670669200:28800 -652348800:32400",
       "-650019600:28800 515527200:32400 527014800:28800 545162400:32400 558464400:28800",
       "577216800:32400 589914000:28800 608666400:32400 621968400:28800 640116000:32400",
       "653418000:28800 671565600:32400 684867600:28800"] },
  { name := "Asia/Singapore", initial := 24925,
    rule := none,
    changes :=
      ["-2038200925:25200 -1167634800:26400 -894180000:27000 -879665400:32400",
       "-767005200:27000 378662400:28800"] },
  { name := "Asia/Srednekolymsk", initial := 36892,
    rule := none,
    changes :=
      ["-1441188892:36000 -1247565600:39600 354891600:43200 370699200:39600 386427600:43200",
       "402235200:39600 417963600:43200 433771200:39600 449586000:43200 465318000:39600",
       "481042800:43200 496767600:39600 512492400:43200 528217200:39600 543942000:43200",
       "559666800:39600 575391600:43200 591116400:39600 606841200:43200 622566000:39600",
       "638290800:43200 654620400:39600 686073600:36000 695750400:39600 701794800:43200",
       "717519600:39600 733244400:43200 748969200:39600 764694000:43200 780418800:39600",
       "796143600:43200 811868400:39600 828198000:43200 846342000:39600 859647600:43200",
       "877791600:39600 891097200:43200 909241200:39600 922546800:43200 941295600:39600",
       "953996400:43200 972745200:39600 985446000:43200 1004194800:39600 1017500400:43200",
       "1035644400:39600 1048950000:43200 1067094000:39600 1080399600:43200",
       "1099148400:39600 1111849200:43200 1130598000:39600 1143298800:43200",
       "1162047600:39600 1174748400:43200 1193497200:39600 1206802800:43200",
       "1224946800:39600 1238252400:43200 1256396400:39600 1269702000:43200",
       "1288450800:39600 1301151600:43200 1414245600:39600"] },
  { name := "Asia/Taipei", initial := 29160,
    rule := none,
    changes :=
      ["-2335248360:28800 -1017820800:32400 -766224000:28800 -745833600:32400",
       "-733827600:28800 -716889600:32400 -699613200:28800 -683884800:32400",
       "-670669200:28800 -652348800:32400 -639133200:28800 -620812800:32400",
       "-607597200:28800 -589276800:32400 -576061200:28800 -562924800:32400",
       "-541760400:28800 -528710400:32400 -510224400:28800 -497174400:32400",
       "-478688400:28800 -465638400:32400 -449830800:28800 -434016000:32400",
       "-418208400:28800 -402480000:32400 -386672400:28800 -370944000:32400",
       "-355136400:28800 -339408000:32400 -323600400:28800 -302515200:32400",
       "-291978000:28800 -270979200:32400 -260442000:28800 133977600:32400 149785200:28800",
       "165513600:32400 181321200:28800 299606400:32400 307551600:28800"] },
  { name := "Asia/Tashkent", initial := 16631,
    rule := none,
    changes :=
      ["-1441168631:18000 -1247547600:21600 354909600:25200 370717200:21600 386445600:25200",
       "402253200:21600 417981600:25200 433789200:21600 449604000:25200 465336000:21600",
       "481060800:25200 496785600:21600 512510400:25200 528235200:21600 543960000:25200",
       "559684800:21600 575409600:25200 591134400:21600 606859200:25200 622584000:21600",
       "638308800:25200 654638400:21600 686091600:18000"] },
  { name := "Asia/Tbilisi", initial := 10751,
    rule := none,
    changes :=
      ["-1441162751:10800 -405140400:14400 354916800:18000 370724400:14400 386452800:18000",
       "402260400:14400 417988800:18000 433796400:14400 449611200:18000 465343200:14400",
       "481068000:18000 496792800:14400 512517600:18000 528242400:14400 543967200:18000",
       "559692000:14400 575416800:18000 591141600:14400 606866400:18000 622591200:14400",
       "638316000:18000 654645600:14400 686098800:10800 701816400:14400 717537600:10800",
       "733266000:14400 748987200:10800 764715600:14400 796161600:18000 811882800:14400",
       "828216000:18000 877806000:14400 891115200:18000 909255600:14400 922564800:18000",
       "941310000:14400 954014400:18000 972759600:14400 985464000:18000 1004209200:14400",
       "1017518400:18000 1035658800:14400 1048968000:18000 1067108400:14400",
       "1080417600:18000 1088276400:14400 1099177200:10800 1111878000:14400"] },
  { name := "Asia/Tehran", initial := 12344,
    rule := none,
    changes :=
      ["-1090466744:12600 227820600:16200 246223800:14400 259617600:18000 271108800:14400",
       "279576000:12600 296598600:16200 306531000:12600 322432200:16200 338499000:12600",
       "673216200:16200 685481400:12600 701209800:16200 717103800:12600 732745800:16200",
       "748639800:12600 764281800:16200 780175800:12600 795817800:16200 811711800:12600",
       "827353800:16200 843247800:12600 858976200:16200 874870200:12600 890512200:16200",
       "906406200:12600 922048200:16200 937942200:12600 953584200:16200 969478200:12600",
       "985206600:16200 1001100600:12600 1016742600:16200 1032636600:12600 1048278600:16200",
       "1064172600:12600 1079814600:16200 1095708600:12600 1111437000:16200",
       "1127331000:12600 1206045000:16200 1221939000:12600 1237667400:16200",
       "1253561400:12600 1269203400:16200 1285097400:12600 1300739400:16200",
       "1316633400:12600 1332275400:16200 1348169400:12600 1363897800:16200",
       "1379791800:12600 1395433800:16200 1411327800:12600 1426969800:16200",
       "1442863800:12600 1458505800:16200 1474399800:12600 1490128200:16200",
       "1506022200:12600 1521664200:16200 1537558200:12600 1553200200:16200",
       "1569094200:12600 1584736200:16200 1600630200:12600 1616358600:16200",
       "1632252600:12600 1647894600:16200 1663788600:12600"] },
  { name := "Asia/Thimphu", initial := 21516,
    rule := none,
    changes :=
      ["-706341516:19800 560025000:21600"] },
  { name := "Asia/Tokyo", initial := 33539,
    rule := none,
    changes :=
      ["-2587712400:32400 -683802000:36000 -672310800:32400 -654771600:36000",
       "-640861200:32400 -620298000:36000 -609411600:32400 -588848400:36000",
       "-577962000:32400"] },
  { name := "Asia/Tomsk", initial := 20391,
    rule := none,
    changes :=
      ["-1578807591:21600 -1247551200:25200 354906000:28800 370713600:25200 386442000:28800",
       "402249600:25200 417978000:28800 433785600:25200 449600400:28800 465332400:25200",
       "481057200:28800 496782000:25200 512506800:28800 528231600:25200 543956400:28800",
       "559681200:25200 575406000:28800 591130800:25200 606855600:28800 622580400:25200",
       "638305200:28800 654634800:25200 686088000:21600 695764800:25200 701809200:28800",
       "717534000:25200 733258800:28800 748983600:25200 764708400:28800 780433200:25200",
       "796158000:28800 811882800:25200 828212400:28800 846356400:25200 859662000:28800",
       "877806000:25200 891111600:28800 909255600:25200 922561200:28800 941310000:25200",
       "954010800:28800 972759600:25200 985460400:28800 1004209200:25200 1017514800:28800",
       "1020193200:25200 1035662400:21600 1048968000:25200 1067112000:21600",
       "1080417600:25200 1099166400:21600 1111867200:25200 1130616000:21600",
       "1143316800:25200 1162065600:21600 1174766400:25200 1193515200:21600",
       "1206820800:25200 1224964800:21600 1238270400:25200 1256414400:21600",
       "1269720000:25200 1288468800:21600 1301169600:25200 1414263600:21600",
       "1464465600:25200"] },
  { name := "Asia/Ulaanbaatar", initial := 25652,
    rule := none,
    changes :=
      ["-2032931252:25200 252435600:28800 417974400:32400 433782000:28800 449596800:32400",
       "465318000:28800 481046400:32400 496767600:28800 512496000:32400 528217200:28800",
       "543945600:32400 559666800:28800 575395200:32400 591116400:28800 606844800:32400",
       "622566000:28800 638294400:32400 654620400:28800 670348800:32400 686070000:28800",
       "701798400:32400 717519600:28800 733248000:32400 748969200:28800 764697600:32400",
       "780418800:28800 796147200:32400 811868400:28800 828201600:32400 843922800:28800",
       "859651200:32400 875372400:28800 891100800:32400 906822000:28800 988394400:32400",
       "1001696400:28800 1017424800:32400 1033146000:28800 1048874400:32400",
       "1064595600:28800 1080324000:32400 1096045200:28800 1111773600:32400",
       "1127494800:28800 1143223200:32400 1159549200:28800 1427479200:32400",
       "1443193200:28800 1458928800:32400 1474642800:28800"] },
  { name := "Asia/Urumqi", initial := 21020,
    rule := none,
    changes :=
      ["-1325483420:21600"] },
  { name := "Asia/Ust-Nera", initial := 34374,
    rule := none,
    changes :=
      ["-1579426374:28800 -1247558400:32400 354898800:43200 370699200:39600 386427600:43200",
       "402235200:39600 417963600:43200 433771200:39600 449586000:43200 465318000:39600",
       "481042800:43200 496767600:39600 512492400:43200 528217200:39600 543942000:43200",
       "559666800:39600 575391600:43200 591116400:39600 606841200:43200 622566000:39600",
       "638290800:43200 654620400:39600 686073600:36000 695750400:39600 701794800:43200",
       "717519600:39600 733244400:43200 748969200:39600 764694000:43200 780418800:39600",
       "796143600:43200 811868400:39600 828198000:43200 846342000:39600 859647600:43200",
       "877791600:39600 891097200:43200 909241200:39600 922546800:43200 941295600:39600",
       "953996400:43200 972745200:39600 985446000:43200 1004194800:39600 1017500400:43200",
       "1035644400:39600 1048950000:43200 1067094000:39600 1080399600:43200",
       "1099148400:39600 1111849200:43200 1130598000:39600 1143298800:43200",
       "1162047600:39600 1174748400:43200 1193497200:39600 1206802800:43200",
       "1224946800:39600 1238252400:43200 1256396400:39600 1269702000:43200",
       "1288450800:39600 1301151600:43200 1315828800:39600 1414249200:36000"] },
  { name := "Asia/Vladivostok", initial := 31651,
    rule := none,
    changes :=
      ["-1487321251:32400 -1247562000:36000 354895200:39600 370702800:36000 386431200:39600",
       "402238800:36000 417967200:39600 433774800:36000 449589600:39600 465321600:36000",
       "481046400:39600 496771200:36000 512496000:39600 528220800:36000 543945600:39600",
       "559670400:36000 575395200:39600 591120000:36000 606844800:39600 622569600:36000",
       "638294400:39600 654624000:36000 686077200:32400 695754000:36000 701798400:39600",
       "717523200:36000 733248000:39600 748972800:36000 764697600:39600 780422400:36000",
       "796147200:39600 811872000:36000 828201600:39600 846345600:36000 859651200:39600",
       "877795200:36000 891100800:39600 909244800:36000 922550400:39600 941299200:36000",
       "954000000:39600 972748800:36000 985449600:39600 1004198400:36000 1017504000:39600",
       "1035648000:36000 1048953600:39600 1067097600:36000 1080403200:39600",
       "1099152000:36000 1111852800:39600 1130601600:36000 1143302400:39600",
       "1162051200:36000 1174752000:39600 1193500800:36000 1206806400:39600",
       "1224950400:36000 1238256000:39600 1256400000:36000 1269705600:39600",
       "1288454400:36000 1301155200:39600 1414249200:36000"] },
  { name := "Asia/Yakutsk", initial := 31138,
    rule := none,
    changes :=
      ["-1579423138:28800 -1247558400:32400 354898800:36000 370706400:32400 386434800:36000",
       "402242400:32400 417970800:36000 433778400:32400 449593200:36000 465325200:32400",
       "481050000:36000 496774800:32400 512499600:36000 528224400:32400 543949200:36000",
       "559674000:32400 575398800:36000 591123600:32400 606848400:36000 622573200:32400",
       "638298000:36000 654627600:32400 686080800:28800 695757600:32400 701802000:36000",
       "717526800:32400 733251600:36000 748976400:32400 764701200:36000 780426000:32400",
       "796150800:36000 811875600:32400 828205200:36000 846349200:32400 859654800:36000",
       "877798800:32400 891104400:36000 909248400:32400 922554000:36000 941302800:32400",
       "954003600:36000 972752400:32400 985453200:36000 1004202000:32400 1017507600:36000",
       "1035651600:32400 1048957200:36000 1067101200:32400 1080406800:36000",
       "1099155600:32400 1111856400:36000 1130605200:32400 1143306000:36000",
       "1162054800:32400 1174755600:36000 1193504400:32400 1206810000:36000",
       "1224954000:32400 1238259600:36000 1256403600:32400 1269709200:36000",
       "1288458000:32400 1301158800:36000 1414252800:32400"] },
  { name := "Asia/Yangon", initial := 23087,
    rule := none,
    changes :=
      ["-1577946287:23400 -873268200:32400 -778410000:23400"] },
  { name := "Asia/Yekaterinburg", initial := 14553,
    rule := none,
    changes :=
      ["-1688270553:13505 -1592610305:14400 -1247544000:18000 354913200:21600",
       "370720800:18000 386449200:21600 402256800:18000 417985200:21600 433792800:18000",
       "449607600:21600 465339600:18000 481064400:21600 496789200:18000 512514000:21600",
       "528238800:18000 543963600:21600 559688400:18000 575413200:21600 591138000:18000",
       "606862800:21600 622587600:18000 638312400:21600 654642000:18000 686095200:14400",
       "695772000:18000 701816400:21600 717541200:18000 733266000:21600 748990800:18000",
       "764715600:21600 780440400:18000 796165200:21600 811890000:18000 828219600:21600",
       "846363600:18000 859669200:21600 877813200:18000 891118800:21600 909262800:18000",
       "922568400:21600 941317200:18000 954018000:21600 972766800:18000 985467600:21600",
       "1004216400:18000 1017522000:21600 1035666000:18000 1048971600:21600",
       "1067115600:18000 1080421200:21600 1099170000:18000 1111870800:21600",
       "1130619600:18000 1143320400:21600 1162069200:18000 1174770000:21600",
       "1193518800:18000 1206824400:21600 1224968400:18000 1238274000:21600",
       "1256418000:18000 1269723600:21600 1288472400:18000 1301173200:21600",
       "1414267200:18000"] },
  { name := "Asia/Yerevan", initial := 10680,
    rule := none,
    changes :=
      ["-1441162680:10800 -405140400:14400 354916800:18000 370724400:14400 386452800:18000",
       "402260400:14400 417988800:18000 433796400:14400 449611200:18000 465343200:14400",
       "481068000:18000 496792800:14400 512517600:18000 528242400:14400 543967200:18000",
       "559692000:14400 575416800:18000 591141600:14400 606866400:18000 622591200:14400",
       "638316000:18000 654645600:14400 686098800:10800 701823600:14400 717548400:10800",
       "733273200:14400 748998000:10800 764722800:14400 780447600:10800 796172400:14400",
       "859672800:18000 877816800:14400 891122400:18000 909266400:14400 922572000:18000",
       "941320800:14400 954021600:18000 972770400:14400 985471200:18000 1004220000:14400",
       "1017525600:18000 1035669600:14400 1048975200:18000 1067119200:14400",
       "1080424800:18000 1099173600:14400 1111874400:18000 1130623200:14400",
       "1143324000:18000 1162072800:14400 1174773600:18000 1193522400:14400",
       "1206828000:18000 1224972000:14400 1238277600:18000 1256421600:14400",
       "1269727200:18000 1288476000:14400 1301176800:18000 1319925600:14400"] }]

end Reckoner.Zone.Data
